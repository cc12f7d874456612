import Lumepeer.Media.Record
import Mathlib.Logic.Function.Basic

/-!
# Export of a recording

`crates/media/src/export.rs`: the video payloads one after the other, and the
audio packets in Ogg pages, one packet a page, behind the two Opus headers. The
newest packet is held back until it is known whether another one follows. A
function that takes `&mut` arguments returns what it returns beside their next
values, also when it fails; the loop over the source is given the number of
records it may ask for.
-/

namespace Lumepeer.Media
open Lumepeer.Lib Lumepeer.Core

/-- `ExportSummary` (`export.rs:33-40`). -/
structure ExportSummary where
  videoFrames : Nat := 0
  audioPackets : Nat := 0
  eventsSkipped : Nat := 0
  deriving DecidableEq

/-- `OGG_SERIAL` (`export.rs:227`). -/
def oggSerial : UInt32 := fromBeBytes32 ⟨[0x4C, 0x4D, 0x52, 0x43], rfl⟩

def oggFlagBos : UInt8 := 0x02
def oggFlagEos : UInt8 := 0x04
def oggMaxSegment : Nat := 255
def oggMaxSegmentsPerPage : Nat := 255
def opusHeadVersion : UInt8 := 1
def opusMappingFamilyRtp : UInt8 := 0
def opusTagsVendor : String := "lumepeer"

/-- `u8::try_from(value).unwrap_or(u8::MAX)`. -/
def u8OrMax (value : Nat) : UInt8 := if value < 2 ^ 8 then UInt8.ofNat value else 255

/-- One bit of the inner loop of `ogg_crc32`. -/
def oggCrcBit (crc : UInt32) : UInt32 :=
  if crc &&& 0x80000000 = 0 then crc <<< 1 else (crc <<< 1) ^^^ 0x04c11db7

/-- One byte of the outer loop of `ogg_crc32`. -/
def oggCrcByte (crc : UInt32) (byte : UInt8) : UInt32 :=
  Nat.iterate oggCrcBit 8 (crc ^^^ (byte.toUInt32 <<< 24))

/-- `ogg_crc32` (`export.rs:383-396`). -/
def oggCrc32 (bytes : List UInt8) : UInt32 := bytes.foldl oggCrcByte 0

/-- The frame length of an Opus configuration in samples at 48 kHz (`export.rs:411-436`). -/
def frameSamples (config : Nat) : Except RecordingError UInt32 :=
  if config ≤ 11 then
    match config % 4 with
    | 0 => .ok 480
    | 1 => .ok 960
    | 2 => .ok 1920
    | _ => .ok 2880
  else if config ≤ 15 then .ok (if config % 2 = 0 then 480 else 960)
  else if config ≤ 31 then
    match config % 4 with
    | 0 => .ok 120
    | 1 => .ok 240
    | 2 => .ok 480
    | _ => .ok 960
  else .error (.corrupt "impossible opus configuration")

/-- The number of frames of a packet with this TOC byte (`export.rs:437-450`). -/
def frameCount (toc : UInt8) (packet : List UInt8) : Except RecordingError UInt32 :=
  if toc &&& 0b11 = 0 then .ok 1
  else if toc &&& 0b11 = 1 ∨ toc &&& 0b11 = 2 then .ok 2
  else
    match packet[1]? with
    | none => .error (.corrupt "truncated opus frame count")
    | some byte =>
        let count := byte &&& 0b00111111
        if count = 0 then .error (.corrupt "opus packet with zero frames")
        else .ok count.toUInt32

/-- `packet_samples_48k` (`export.rs:405-457`). -/
def packetSamples48k (packet : List UInt8) : Except RecordingError UInt32 :=
  match packet with
  | [] => .error (.corrupt "empty opus packet")
  | toc :: _ => do
      let samples ← frameSamples (toc >>> 3).toNat
      let frames ← frameCount toc packet
      let samples := saturatingMul32 samples frames
      if samples > audioSampleRateHz * 120 / 1000 then
        .error (.corrupt "opus packet longer than 120 ms")
      else .ok samples

/-- The lacing values of a packet with `left` bytes to go (the loop of `write_page`). -/
def lacingValues (left : Nat) : List UInt8 :=
  let value := min left oggMaxSegment
  if value < oggMaxSegment then [u8OrMax value]
  else u8OrMax value :: lacingValues (left - value)
termination_by left
decreasing_by
  rename_i full
  simp only [oggMaxSegment] at full ⊢
  omega

/-- `OggOpusWriter` (`export.rs:253-260`). -/
structure OggOpusWriter where
  sequence : UInt32
  granule : UInt64
  pending : Option (List UInt8)
  deriving DecidableEq

/-- The page `write_page` builds, its checksum still zero. -/
def unsignedPage (lacing packet : List UInt8) (flags : UInt8) (granule : UInt64)
    (sequence : UInt32) : List UInt8 :=
  [0x4F, 0x67, 0x67, 0x53] ++ [0] ++ [flags] ++ toLeBytes64 granule ++ toLeBytes32 oggSerial
    ++ toLeBytes32 sequence ++ toLeBytes32 0 ++ [u8OrMax lacing.length] ++ lacing ++ packet

/-- The checksum of a page written over its bytes 22 to 26. -/
def signPage (page : List UInt8) : List UInt8 :=
  page.take 22 ++ toLeBytes32 (oggCrc32 page) ++ page.drop 26

/-- The `OpusHead` packet of `OggOpusWriter::begin`. -/
def opusHead (channels : UInt8) : List UInt8 :=
  asBytes "OpusHead" ++ [opusHeadVersion] ++ [channels] ++ toLeBytes16 0
    ++ toLeBytes32 audioSampleRateHz ++ toLeBytes16 0 ++ [opusMappingFamilyRtp]

/-- The `OpusTags` packet of `OggOpusWriter::begin`. -/
def opusTags : List UInt8 :=
  asBytes "OpusTags" ++ toLeBytes32 (UInt32.ofNat (asBytes opusTagsVendor).length)
    ++ asBytes opusTagsVendor ++ toLeBytes32 0

namespace OggOpusWriter

variable {W : Type} [Write W]

/-- `OggOpusWriter::write_page` (`export.rs:337-377`). -/
def writePage (writer : OggOpusWriter) (sink : W) (packet : List UInt8) (flags : UInt8)
    (granule : UInt64) : Except RecordingError Unit × OggOpusWriter × W :=
  let lacing := lacingValues packet.length
  if lacing.length > oggMaxSegmentsPerPage then
    (.error (.corrupt "packet too large for one page"), writer, sink)
  else
    let page := signPage (unsignedPage lacing packet flags granule writer.sequence)
    match Write.writeAll sink page with
    | (.error e, sink) => (.error (.io e.message), writer, sink)
    -- `wrapping_add`
    | (.ok (), sink) => (.ok (), { writer with sequence := writer.sequence + 1 }, sink)

/-- `OggOpusWriter::emit` (`export.rs:322-335`). -/
def emit (writer : OggOpusWriter) (sink : W) (packet : List UInt8) (last : Bool) :
    Except RecordingError Unit × OggOpusWriter × W :=
  match packetSamples48k packet with
  | .error e => (.error e, writer, sink)
  | .ok samples =>
      let writer := { writer with granule := saturatingAdd64 writer.granule samples.toUInt64 }
      writer.writePage sink packet (if last then oggFlagEos else 0) writer.granule

/-- `OggOpusWriter::begin` (`export.rs:268-298`). -/
def begin (sink : W) (channels : UInt8) : Except RecordingError OggOpusWriter × W :=
  let writer : OggOpusWriter := { sequence := 0, granule := 0, pending := none }
  match writer.writePage sink (opusHead channels) oggFlagBos 0 with
  | (.error e, _, sink) => (.error e, sink)
  | (.ok (), writer, sink) =>
      -- `u32::try_from`
      if (asBytes opusTagsVendor).length < 2 ^ 32 then
        match writer.writePage sink opusTags 0 0 with
        | (.error e, _, sink) => (.error e, sink)
        | (.ok (), writer, sink) => (.ok writer, sink)
      else (.error (.corrupt "vendor string too long"), sink)

/-- `OggOpusWriter::write_packet` (`export.rs:301-311`). -/
def writePacket (writer : OggOpusWriter) (sink : W) (packet : List UInt8) :
    Except RecordingError Unit × OggOpusWriter × W :=
  match writer.pending with
  | none => (.ok (), { writer with pending := some packet }, sink)
  | some previous =>
      match emit { writer with pending := none } sink previous false with
      | (.error e, writer, sink) => (.error e, writer, sink)
      | (.ok (), writer, sink) => (.ok (), { writer with pending := some packet }, sink)

/-- `sink.flush()?`, the end of `OggOpusWriter::finish`. -/
def flushed (sink : W) : Except RecordingError Unit × W :=
  match Write.flush sink with
  | (.error e, sink) => (.error (.io e.message), sink)
  | (.ok (), sink) => (.ok (), sink)

/-- `OggOpusWriter::finish` (`export.rs:314-320`). -/
def finish (writer : OggOpusWriter) (sink : W) : Except RecordingError Unit × W :=
  match writer.pending with
  | none => flushed sink
  | some last =>
      match emit { writer with pending := none } sink last true with
      | (.error e, _, sink) => (.error e, sink)
      | (.ok (), _, sink) => flushed sink

end OggOpusWriter

/-- The variables of `export_streams`: the summary, the writer of the audio track once there is
one, and the two sinks. -/
structure Exporter (V A : Type) where
  summary : ExportSummary
  ogg : Option OggOpusWriter
  video : V
  audio : A

namespace Exporter

variable {R V A : Type} [Read R] [Write V] [Write A]

/-- `ogg.insert(OggOpusWriter::begin(audio, channels)?)`, where there is no writer yet. -/
def oggWriter (exporter : Exporter V A) (channels : UInt8) :
    Except RecordingError OggOpusWriter × Exporter V A :=
  match exporter.ogg with
  | some writer => (.ok writer, exporter)
  | none =>
      match OggOpusWriter.begin exporter.audio channels with
      | (.error e, audio) => (.error e, { exporter with audio })
      | (.ok writer, audio) => (.ok writer, { exporter with ogg := some writer, audio })

/-- The body of the loop of `export_streams`. -/
def exportRecord (exporter : Exporter V A) (channels : UInt8) :
    Record → Except RecordingError Unit × Exporter V A
  | .video _ data =>
      match Write.writeAll exporter.video data with
      | (.error e, video) => (.error (.io e.message), { exporter with video })
      | (.ok (), video) =>
          let summary := { exporter.summary with videoFrames := exporter.summary.videoFrames + 1 }
          (.ok (), { exporter with video, summary })
  | .audio _ data =>
      match exporter.oggWriter channels with
      | (.error e, exporter) => (.error e, exporter)
      | (.ok writer, exporter) =>
          match writer.writePacket exporter.audio data with
          | (.error e, writer, audio) => (.error e, { exporter with ogg := some writer, audio })
          | (.ok (), writer, audio) =>
              let summary :=
                { exporter.summary with audioPackets := exporter.summary.audioPackets + 1 }
              (.ok (), { exporter with ogg := some writer, audio, summary })
  | .event _ _ =>
      let summary := { exporter.summary with eventsSkipped := exporter.summary.eventsSkipped + 1 }
      (.ok (), { exporter with summary })

/-- The loop of `export_streams`, at most `calls` calls of `next_record`; `none` where they do
not reach the end of the source. -/
def exportRecords (channels : UInt8) :
    Nat → RecordReader R → Exporter V A → Option (Except RecordingError Unit × Exporter V A)
  | 0, _, _ => none
  | calls + 1, reader, exporter =>
      match reader.nextRecord with
      | (.error e, _) => some (.error e, exporter)
      | (.ok none, _) => some (.ok (), exporter)
      | (.ok (some record), reader) =>
          match exporter.exportRecord channels record with
          | (.error e, exporter) => some (.error e, exporter)
          | (.ok (), exporter) => exportRecords channels calls reader exporter

/-- `writer.finish(audio)?` if there is a writer, and the summary. -/
def conclude (exporter : Exporter V A) : Except RecordingError ExportSummary × V × A :=
  match exporter.ogg with
  | none => (.ok exporter.summary, exporter.video, exporter.audio)
  | some writer =>
      match writer.finish exporter.audio with
      | (.error e, audio) => (.error e, exporter.video, audio)
      | (.ok (), audio) => (.ok exporter.summary, exporter.video, audio)

end Exporter

/-- `export_streams` (`export.rs:140-173`), at most `calls` calls of `next_record`. -/
def exportStreams {R V A : Type} [Read R] [Write V] [Write A] (calls : Nat) (source : R) (video : V)
    (audio : A) (channels : UInt8) : Option (Except RecordingError ExportSummary × V × A) :=
  match RecordReader.new source with
  | .error e => some (.error e, video, audio)
  | .ok reader =>
      let exporter : Exporter V A := { summary := {}, ogg := none, video, audio }
      match exporter.exportRecords channels calls reader with
      | none => none
      | some (.error e, exporter) => some (.error e, exporter.video, exporter.audio)
      | some (.ok (), exporter) => some exporter.conclude

/-!
## The files of an export

`export_open` of `crates/media/src/export.rs` on an output directory that does
what it is asked. A file holds what was written since it was created; the two
files of an export have different names, so they are put into the directory one
after the other.
-/

/-- The output directory: the contents of its files under their names. -/
abbrev Directory := String → Option (List UInt8)

/-- `VIDEO_EXTENSION` (`export.rs:27`). -/
def videoExtension : String := "h264"

/-- `AUDIO_EXTENSION` (`export.rs:29`). -/
def audioExtension : String := "opus"

/-- `AUDIO_CHANNELS_EXPORTED` (`export.rs:130`). -/
def audioChannelsExported : UInt8 := audioChannels

/-- `LazyFile` (`export.rs:177-181`): its path, and the contents of the file once it is created. -/
structure LazyFile where
  path : String
  file : Option (List UInt8)
  deriving DecidableEq

namespace LazyFile

/-- `LazyFile::new` (`export.rs:184-186`). -/
def new (path : String) : LazyFile := { path, file := none }

/-- `LazyFile::finish` (`export.rs:189-198`). -/
def finish (lazyFile : LazyFile) : Except RecordingError Bool := .ok lazyFile.file.isSome

/-- The directory with the file in it, if it was created. -/
def store (lazyFile : LazyFile) (dir : Directory) : Directory :=
  match lazyFile.file with
  | none => dir
  | some contents => Function.update dir lazyFile.path (some contents)

end LazyFile

/-- `write_all` over `LazyFile::write` (`export.rs:201-208`): no call of it for no bytes, and
`File::create` empties a file that was there. -/
instance : Write LazyFile where
  writeAll lazyFile bytes :=
    if bytes.isEmpty then (.ok (), lazyFile)
    else (.ok (), { lazyFile with file := some (lazyFile.file.getD [] ++ bytes) })
  flush lazyFile := (.ok (), lazyFile)

/-- `ExportOutput` (`export.rs:53-61`). -/
structure ExportOutput where
  video : Option String
  audio : Option String
  summary : ExportSummary
  deriving DecidableEq

/-- `export_open` (`export.rs:93-122`), at most `calls` calls of `next_record`; beside what it
returns the directory it leaves. -/
def exportOpen {R : Type} [Read R] (calls : Nat) (source : R) (stem : String) (dir : Directory) :
    Option (Except RecordingError ExportOutput × Directory) :=
  let videoPath := stem ++ "." ++ videoExtension
  let audioPath := stem ++ "." ++ audioExtension
  match exportStreams calls source (LazyFile.new videoPath) (LazyFile.new audioPath)
    audioChannelsExported with
  | none => none
  | some (result, video, audio) =>
      let output := do
        let summary ← result
        let videoWritten ← video.finish
        let audioWritten ← audio.finish
        return {
          video := if videoWritten then some videoPath else none
          audio := if audioWritten then some audioPath else none
          summary }
      some (output, audio.store (video.store dir))

end Lumepeer.Media
