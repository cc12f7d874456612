import Lumepeer.Media.Export.Proofs.Stream
import Lumepeer.Media.Record.Proofs.Container

/-!
# The exported tracks of a recording

`export_streams` over the records a reader returns, step by step: the video
payloads one after the other in one sink, and in the other an Ogg stream of the
audio packets but for the newest one, which the writer holds back. The export
fails where, and only where, a packet has no valid TOC or does not fit a page.
-/

namespace Lumepeer.Media
open Lumepeer.Lib Lumepeer.Core

/-- The video payloads of the records. -/
def videoPayloads (records : List Record) : List (List UInt8) :=
  records.filterMap fun
    | .video _ data => some data
    | _ => none

/-- The audio packets of the records. -/
def audioPackets (records : List Record) : List (List UInt8) :=
  records.filterMap fun
    | .audio _ data => some data
    | _ => none

/-- The event lines of the records. -/
def eventLines (records : List Record) : List String :=
  records.filterMap fun
    | .event _ line => some line
    | _ => none

/-- What an export of the records counts. -/
def summaryOf (records : List Record) : ExportSummary where
  videoFrames := (videoPayloads records).length
  audioPackets := (audioPackets records).length
  eventsSkipped := (eventLines records).length

/-- The audio sink and the writer after some packets: nothing before the first one, and then the
pages of all but the newest, which is pending. -/
def AudioTrack (channels : UInt8) (packets : List (List UInt8)) (audio : List UInt8) :
    Option OggOpusWriter → Prop
  | none => packets = [] ∧ audio = []
  | some writer => ∃ before newest pages, packets = before ++ [newest] ∧
      writer.pending = some newest ∧ Writing channels before pages writer audio

/-- The variables of `export_streams` after some records. -/
structure Exported (channels : UInt8) (records : List Record)
    (exporter : Exporter (List UInt8) (List UInt8)) : Prop where
  summary_eq : exporter.summary = summaryOf records
  video_eq : exporter.video = (videoPayloads records).flatten
  track : AudioTrack channels (audioPackets records) exporter.audio exporter.ogg

variable {channels : UInt8} {records : List Record}

/-- A packet queued behind the newest one: that one goes to a page, unless it is refused. -/
theorem OggOpusWriter.writePacket_cases {packets : List (List UInt8)} {newest : List UInt8}
    {pages : List OggPage} {writer : OggOpusWriter} {audio : List UInt8}
    (pending : writer.pending = some newest) (held : Writing channels packets pages writer audio)
    (packet : List UInt8) :
    (∃ next sink, writer.writePacket audio packet = (.ok (), next, sink) ∧
      AudioTrack channels (packets ++ [newest] ++ [packet]) sink (some next)) ∨
    ¬ Exportable newest ∧
      ∃ e next sink, writer.writePacket audio packet = (.error e, next, sink) := by
  rw [writePacket, pending]
  rcases emit_cases (held.hold none) newest false with
    ⟨good, page, next, wrote, stream, sequence, granule⟩ | ⟨bad, e, next, sink, failed⟩
  · left
    simp only [wrote]
    refine ⟨_, _, rfl, packets ++ [newest], packet, pages ++ [page], rfl, rfl, ?_⟩
    constructor
    case audio_eq => simp [held.audio_eq]
    case stream => exact stream
    case sequence =>
      rw [List.length_append, List.length_singleton]
      exact sequence
    case granule => exact granule
    case exportable =>
      intro any member
      rcases List.mem_append.mp member with old | new
      · exact held.exportable any old
      · rwa [List.mem_singleton.mp new]
  · right
    simp only [failed]
    exact ⟨bad, _, _, _, rfl⟩

/-- The last packet goes to a page that closes the stream, unless it is refused. -/
theorem OggOpusWriter.finish_cases {packets : List (List UInt8)} {newest : List UInt8}
    {pages : List OggPage} {writer : OggOpusWriter} {audio : List UInt8}
    (pending : writer.pending = some newest) (held : Writing channels packets pages writer audio) :
    (Exportable newest ∧ ∃ all, writer.finish audio = (.ok (), all.flatMap OggPage.bytes) ∧
      OggOpus channels (packets ++ [newest]) true all) ∨
    ¬ Exportable newest ∧ ∃ e sink, writer.finish audio = (.error e, sink) := by
  rw [finish, pending]
  rcases emit_cases (held.hold none) newest true with
    ⟨good, page, next, wrote, stream, -, -⟩ | ⟨bad, e, next, sink, failed⟩
  · left
    simp only [wrote]
    refine ⟨good, pages ++ [page], ?_, stream⟩
    rw [held.audio_eq, List.flatMap_append, List.flatMap_singleton]
    rfl
  · right
    simp only [failed]
    exact ⟨bad, _, _, rfl⟩

/-- A record that is not audio leaves the audio track as it is. -/
theorem Exported.concat {exporter : Exporter (List UInt8) (List UInt8)}
    (held : Exported channels records exporter) {record : Record} {summary : ExportSummary}
    {video : List UInt8} (counted : summary = summaryOf (records ++ [record]))
    (shown : video = (videoPayloads (records ++ [record])).flatten)
    (silent : audioPackets (records ++ [record]) = audioPackets records) :
    Exported channels (records ++ [record]) { exporter with summary, video } := by
  refine ⟨counted, shown, ?_⟩
  rw [silent]
  exact held.track

namespace Exporter

variable {exporter : Exporter (List UInt8) (List UInt8)}

/-- One more audio packet. -/
theorem audio_cases (held : Exported channels records exporter) (packet : List UInt8)
    (t : UInt64) :
    (∃ next, exporter.exportRecord channels (.audio t packet) = (.ok (), next) ∧
      Exported channels (records ++ [.audio t packet]) next) ∨
    (∃ bad ∈ audioPackets records, ¬ Exportable bad) ∧
      ∃ e next, exporter.exportRecord channels (.audio t packet) = (.error e, next) := by
  obtain ⟨summary, ogg, video, audio⟩ := exporter
  obtain ⟨summary_eq, video_eq, track⟩ := held
  have summary_next : { summary with audioPackets := summary.audioPackets + 1 } =
      summaryOf (records ++ [.audio t packet]) := by
    have same : summary = summaryOf records := summary_eq
    simp [same, summaryOf, videoPayloads, audioPackets, eventLines]
  have video_next : video = (videoPayloads (records ++ [.audio t packet])).flatten := by
    have same : video = (videoPayloads records).flatten := video_eq
    simp [same, videoPayloads]
  have packets : audioPackets (records ++ [.audio t packet]) = audioPackets records ++ [packet] := by
    simp [audioPackets]
  cases ogg with
  | none =>
      obtain ⟨silent, rfl⟩ : audioPackets records = [] ∧ audio = [] := track
      obtain ⟨writer, pages, began, idle, writing⟩ := OggOpusWriter.begin_nil channels
      left
      simp only [exportRecord, oggWriter, began, OggOpusWriter.writePacket, idle]
      refine ⟨_, rfl, summary_next, video_next, ?_⟩
      rw [packets, silent]
      exact ⟨[], packet, pages, rfl, rfl, writing.hold (some packet)⟩
  | some writer =>
      obtain ⟨before, newest, pages, split, pending, writing⟩ := track
      rcases OggOpusWriter.writePacket_cases pending writing packet with
        ⟨next, sink, queued, track⟩ | ⟨bad, e, next, sink, failed⟩
      · left
        simp only [exportRecord, oggWriter, queued]
        refine ⟨_, rfl, summary_next, video_next, ?_⟩
        rw [packets, split]
        exact track
      · right
        simp only [exportRecord, oggWriter, failed]
        refine ⟨⟨newest, ?_, bad⟩, _, _, rfl⟩
        rw [split]
        exact List.mem_append_right _ List.mem_cons_self

/-- One more record: it is exported, or a packet before it is refused. -/
theorem exportRecord_cases (held : Exported channels records exporter) (record : Record) :
    (∃ next, exporter.exportRecord channels record = (.ok (), next) ∧
      Exported channels (records ++ [record]) next) ∨
    (∃ bad ∈ audioPackets records, ¬ Exportable bad) ∧
      ∃ e next, exporter.exportRecord channels record = (.error e, next) := by
  cases record with
  | audio t packet => exact audio_cases held packet t
  | video t data =>
      left
      refine ⟨_, rfl, held.concat ?_ ?_ ?_⟩
      · simp [held.summary_eq, summaryOf, videoPayloads, audioPackets, eventLines]
      · simp [held.video_eq, videoPayloads]
      · simp [audioPackets]
  | event t line =>
      left
      refine ⟨_, rfl, held.concat ?_ ?_ ?_⟩
      · simp [held.summary_eq, summaryOf, videoPayloads, audioPackets, eventLines]
      · simp [held.video_eq, videoPayloads]
      · simp [audioPackets]

variable {R : Type} [Read R]

/-- The records a reader returns are exported one after the other, up to the first packet that is
refused. -/
theorem exportRecords_cases {calls : Nat} {reader : RecordReader R} {more : List Record}
    (read : reader.readRecords calls = some (.ok more)) (held : Exported channels records exporter) :
    (∃ next, exporter.exportRecords channels calls reader = some (.ok (), next) ∧
      Exported channels (records ++ more) next) ∨
    (∃ bad ∈ audioPackets (records ++ more), ¬ Exportable bad) ∧
      ∃ e next, exporter.exportRecords channels calls reader = some (.error e, next) := by
  induction calls generalizing reader exporter records more with
  | zero => cases read
  | succ calls ih =>
      rw [exportRecords]
      rcases RecordReader.readRecords_cases read with
        ⟨next, ended, rfl⟩ | ⟨record, rest, next, returned, readRest, rfl⟩
      · left
        simp only [ended]
        rw [List.append_nil]
        exact ⟨_, rfl, held⟩
      · simp only [returned]
        rcases exportRecord_cases held record with
          ⟨after, done, heldAfter⟩ | ⟨⟨bad, member, refused⟩, e, after, failed⟩
        · simp only [done]
          have later := ih readRest heldAfter
          rwa [List.append_assoc, List.singleton_append] at later
        · right
          simp only [failed]
          refine ⟨⟨bad, ?_, refused⟩, _, _, rfl⟩
          rw [audioPackets, List.filterMap_append]
          exact List.mem_append_left _ member

/-- An export that reaches its end has read the whole source. -/
theorem exists_readRecords {calls : Nat} {reader : RecordReader R}
    {after : Exporter (List UInt8) (List UInt8)}
    (ran : exporter.exportRecords channels calls reader = some (.ok (), after)) :
    ∃ more, reader.readRecords calls = some (.ok more) := by
  induction calls generalizing reader exporter with
  | zero => cases ran
  | succ calls ih =>
      rw [exportRecords] at ran
      rw [RecordReader.readRecords]
      rcases polled : reader.nextRecord with ⟨e | (_ | record), next⟩
      · rw [polled] at ran
        cases ran
      · exact ⟨[], rfl⟩
      · rw [polled] at ran
        rcases exported : exporter.exportRecord channels record with ⟨e | ⟨⟩, later⟩
        · simp only [exported] at ran
          cases ran
        · simp only [exported] at ran
          obtain ⟨rest, readRest⟩ := ih ran
          simp only [readRest]
          exact ⟨record :: rest, rfl⟩

/-- The end of the export: the stream is closed if there is one, unless a packet is refused. -/
theorem conclude_track (held : Exported channels records exporter) :
    ((∀ packet ∈ audioPackets records, Exportable packet) ∧
      ∃ audio, exporter.conclude = (.ok (summaryOf records), (videoPayloads records).flatten, audio) ∧
        (audioPackets records = [] ∧ audio = [] ∨ ∃ pages, audio = pages.flatMap OggPage.bytes ∧
          OggOpus channels (audioPackets records) true pages)) ∨
    (∃ bad ∈ audioPackets records, ¬ Exportable bad) ∧
      ∃ e video audio, exporter.conclude = (.error e, video, audio) := by
  obtain ⟨summary, ogg, video, audio⟩ := exporter
  obtain ⟨rfl, rfl, track⟩ := held
  cases ogg with
  | none =>
      obtain ⟨silent, rfl⟩ : audioPackets records = [] ∧ audio = [] := track
      left
      rw [silent]
      exact ⟨nofun, _, rfl, .inl ⟨rfl, rfl⟩⟩
  | some writer =>
      obtain ⟨before, newest, pages, split, pending, writing⟩ := track
      rw [split]
      rcases OggOpusWriter.finish_cases pending writing with
        ⟨good, all, finished, stream⟩ | ⟨bad, e, sink, failed⟩
      · left
        constructor
        · intro packet member
          rcases List.mem_append.mp member with old | new
          · exact writing.exportable packet old
          · rwa [List.mem_singleton.mp new]
        · simp only [conclude, finished]
          exact ⟨_, rfl, .inr ⟨all, rfl, stream⟩⟩
      · right
        simp only [conclude, failed]
        exact ⟨⟨newest, List.mem_append_right _ List.mem_cons_self, bad⟩, _, _, _, rfl⟩

end Exporter

variable {R : Type} [Read R]

theorem exported_none (channels : UInt8) :
    Exported channels [] { summary := {}, ogg := none, video := [], audio := [] } :=
  ⟨rfl, rfl, rfl, rfl⟩

/-- The reader behind a recording that was read. -/
theorem exists_reader {calls : Nat} {source : R} {info : ContainerInfo}
    (read : readRecording calls source = some (.ok (info, records))) :
    ∃ reader, RecordReader.new source = .ok reader ∧
      reader.readRecords calls = some (.ok records) := by
  rw [readRecording] at read
  split at read
  · cases read
  · rename_i reader opened
    split at read
    · cases read
    · cases read
    · rename_i all readAll
      cases read
      exact ⟨reader, opened, readAll⟩

/-- The export of a recording that can be read. -/
theorem exportStreams_cases {calls : Nat} {source : R} {info : ContainerInfo}
    (read : readRecording calls source = some (.ok (info, records))) (channels : UInt8) :
    ((∀ packet ∈ audioPackets records, Exportable packet) ∧
      ∃ audio, exportStreams calls source ([] : List UInt8) ([] : List UInt8) channels =
          some (.ok (summaryOf records), (videoPayloads records).flatten, audio) ∧
        (audioPackets records = [] ∧ audio = [] ∨ ∃ pages, audio = pages.flatMap OggPage.bytes ∧
          OggOpus channels (audioPackets records) true pages)) ∨
    (∃ bad ∈ audioPackets records, ¬ Exportable bad) ∧
      ∃ e video audio, exportStreams calls source ([] : List UInt8) ([] : List UInt8) channels =
        some (.error e, video, audio) := by
  obtain ⟨reader, opened, readAll⟩ := exists_reader read
  rw [exportStreams, opened]
  rcases Exporter.exportRecords_cases readAll (exported_none channels) with
    ⟨after, ran, held⟩ | ⟨bad, e, after, failed⟩
  · simp only [ran, Option.some.injEq]
    exact Exporter.conclude_track held
  · right
    simp only [failed]
    exact ⟨bad, _, _, _, rfl⟩

/-- A recording whose export succeeds can be read. -/
theorem exists_readRecording {calls : Nat} {source : R} {channels : UInt8}
    {summary : ExportSummary} {video audio : List UInt8}
    (exported : exportStreams calls source ([] : List UInt8) ([] : List UInt8) channels =
      some (.ok summary, video, audio)) :
    ∃ info records, readRecording calls source = some (.ok (info, records)) := by
  rw [exportStreams] at exported
  rw [readRecording]
  rcases opened : RecordReader.new source with e | reader
  · rw [opened] at exported
    cases exported
  · rw [opened] at exported
    dsimp only at exported
    split at exported
    · cases exported
    · cases exported
    · rename_i after ran
      obtain ⟨records, read⟩ := Exporter.exists_readRecords ran
      simp only [read]
      exact ⟨_, records, rfl⟩

/-- Every export that succeeds leaves the video payloads one after the other and, if there is
audio, an Ogg stream of the two headers and the packets; and it succeeds whenever the recording
can be read and each of its packets has a valid TOC and is shorter than 255 full segments. -/
theorem exported_streams (calls : Nat) (source : R) (channels : UInt8) :
    (∀ summary video audio,
      exportStreams calls source ([] : List UInt8) ([] : List UInt8) channels =
        some (.ok summary, video, audio) →
      ∃ info records, readRecording calls source = some (.ok (info, records)) ∧
        video = (videoPayloads records).flatten ∧
        (audioPackets records ≠ [] → ∃ pages, oggPages audio = some pages ∧
          OggOpus channels (audioPackets records) true pages)) ∧
    (∀ info records, readRecording calls source = some (.ok (info, records)) →
      (∀ packet ∈ audioPackets records, packet.length < 255 * 255 ∧
        ∃ samples, packetSamples48k packet = .ok samples) →
      ∃ summary video audio,
        exportStreams calls source ([] : List UInt8) ([] : List UInt8) channels =
          some (.ok summary, video, audio)) := by
  constructor
  · intro summary video audio exported
    obtain ⟨info, records, read⟩ := exists_readRecording exported
    refine ⟨info, records, read, ?_⟩
    rcases exportStreams_cases read channels with ⟨-, written, ran, track⟩ | ⟨-, e, v, a, failed⟩
    · rw [exported] at ran
      cases ran
      refine ⟨rfl, fun heard => ?_⟩
      rcases track with ⟨silent, -⟩ | ⟨pages, rfl, stream⟩
      · exact absurd silent heard
      · exact ⟨pages, oggPages_flatMap pages, stream⟩
    · rw [exported] at failed
      cases failed
  · intro info records read exportable
    rcases exportStreams_cases read channels with
      ⟨-, audio, ran, -⟩ | ⟨⟨bad, member, refused⟩, -⟩
    · exact ⟨_, _, audio, ran⟩
    · exact absurd (exportable bad member) refused

/-- A recording of these audio packets. -/
def recordingOf (packets : List (List UInt8)) : List UInt8 :=
  RecordingWriter.header ++ (packets.map (Record.audio 0)).flatMap Record.bytes

/-- A recording of `n` audio packets of 20 ms. -/
def packetsRecording (n : Nat) : List UInt8 := recordingOf (List.replicate n [0xFC])

theorem readRecording_of_packets {packets : List (List UInt8)} {calls : Nat}
    (fit : ∀ packet ∈ packets, (Record.audio 0 packet).Fits) (solid : [] ∉ packets)
    (enough : packets.length < calls) : ∃ info,
    readRecording calls (recordingOf packets) =
      some (.ok (info, packets.map (Record.audio 0))) := by
  have fits : ∀ record ∈ packets.map (Record.audio 0), record.Fits := by
    intro record member
    obtain ⟨packet, isPacket, rfl⟩ := List.mem_map.mp member
    exact fit packet isPacket
  have solids : ∀ record ∈ packets.map (Record.audio 0), record.payload ≠ [] := by
    intro record member empty
    obtain ⟨packet, isPacket, rfl⟩ := List.mem_map.mp member
    obtain rfl : packet = [] := empty
    exact solid isPacket
  have whole := RecordReader.wholeBefore_eq_self
    (Nat.le_refl ((packets.map (Record.audio 0)).flatMap Record.bytes).length)
  have read := RecordReader.readRecords_take
    { inner := (packets.map (Record.audio 0)).flatMap Record.bytes
      version := recordFormatVersion
      ended := false }
    rfl fits solids List.take_length.symm
    (show (RecordReader.wholeBefore _ _).length < calls by rw [whole]; simpa using enough)
  rw [whole] at read
  rw [readRecording, recordingOf, RecordReader.new_header]
  simp only [read]
  exact ⟨_, rfl⟩

theorem readRecording_packets (n : Nat) : ∃ info,
    readRecording (n + 1) (packetsRecording n) =
      some (.ok (info, List.replicate n (Record.audio 0 [0xFC]))) := by
  have read := @readRecording_of_packets (List.replicate n [0xFC]) (n + 1)
    (fun packet member => by
      rw [List.eq_of_mem_replicate member]
      show 1 ≤ maxMediaFrameBytes
      decide)
    (fun member => nomatch List.eq_of_mem_replicate member) (by simp)
  rw [List.map_replicate] at read
  exact read

/-- They are exported, on a page each. -/
theorem exportStreams_packets {n : Nat} (positive : 0 < n) (channels : UInt8) :
    ∃ summary video pages,
      exportStreams (n + 1) (packetsRecording n) ([] : List UInt8) ([] : List UInt8) channels =
        some (.ok summary, video, pages.flatMap OggPage.bytes) ∧
      OggOpus channels (List.replicate n [0xFC]) true pages := by
  have packets : audioPackets (List.replicate n (Record.audio 0 [0xFC])) =
      List.replicate n [0xFC] := by
    simp [audioPackets]
  obtain ⟨info, read⟩ := readRecording_packets n
  rcases exportStreams_cases read channels with
    ⟨-, audio, ran, track⟩ | ⟨⟨bad, member, refused⟩, -⟩
  · rw [packets] at track
    rcases track with ⟨silent, -⟩ | ⟨pages, rfl, stream⟩
    · rw [List.replicate_eq_nil_iff] at silent
      exact absurd silent (Nat.ne_of_gt positive)
    · exact ⟨_, _, pages, ran, stream⟩
  · rw [packets] at member
    rw [(List.mem_replicate.mp member).2] at refused
    exact absurd ⟨by decide, 960, rfl⟩ refused

/-- A packet that fills a segment, and a shorter one. -/
def twoPackets : List (List UInt8) := [0xFC :: List.replicate 254 7, [0xFC, 1, 2]]

theorem two_packets_are_exported : ∃ summary video audio pages,
    exportStreams 3 (recordingOf twoPackets) ([] : List UInt8) ([] : List UInt8) 2 =
      some (.ok summary, video, audio) ∧
    oggPages audio = some pages ∧ OggOpus 2 twoPackets true pages := by
  have either {p : List UInt8 → Prop} (long : p (0xFC :: List.replicate 254 7))
      (short : p [0xFC, 1, 2]) : ∀ packet ∈ twoPackets, p packet := by
    simp only [twoPackets, List.forall_mem_cons, List.not_mem_nil, false_implies, implies_true,
      and_true]
    exact ⟨long, short⟩
  have filled : (0xFC :: List.replicate 254 7 : List UInt8).length = 255 := by
    rw [List.length_cons, List.length_replicate]
  have long : (Record.audio 0 (0xFC :: List.replicate 254 7)).Fits := by
    show (0xFC :: List.replicate 254 7 : List UInt8).length ≤ maxMediaFrameBytes
    rw [filled]
    decide
  obtain ⟨info, read⟩ := @readRecording_of_packets twoPackets 3
    (@either (fun packet => (Record.audio 0 packet).Fits) long (show 3 ≤ maxMediaFrameBytes by decide))
    (fun empty => @either (· ≠ []) (List.cons_ne_nil _ _) (List.cons_ne_nil _ _) [] empty rfl)
    (by decide)
  have exportable : ∀ packet ∈ twoPackets, packet.length < 255 * 255 ∧
      ∃ samples, packetSamples48k packet = .ok samples :=
    @either _ ⟨by rw [filled]; decide, 960, rfl⟩ ⟨by decide, 960, rfl⟩
  obtain ⟨summary, video, audio, ran⟩ :=
    (exported_streams 3 (recordingOf twoPackets) 2).2 info _ read exportable
  obtain ⟨sameInfo, records, readAgain, -, track⟩ :=
    (exported_streams 3 (recordingOf twoPackets) 2).1 summary video audio ran
  rw [read] at readAgain
  cases readAgain
  obtain ⟨pages, parsed, stream⟩ := track (List.cons_ne_nil _ _)
  exact ⟨summary, video, audio, pages, ran, parsed, stream⟩

theorem playedSamples_replicate (n : Nat) (packet : List UInt8) :
    playedSamples (List.replicate n packet) = n * samplesOf packet := by
  induction n with
  | zero => rw [List.replicate_zero, playedSamples, Nat.zero_mul]
  | succ n ih => rw [List.replicate_succ, playedSamples, ih, Nat.succ_mul, Nat.add_comm]

/-- Neither counter of a page grows without end: page `2 ^ 32` of a long recording is not numbered
so, and the granule position falls behind the samples once they do not fit its field. -/
theorem page_counters_are_bounded :
    (∃ (summary : ExportSummary) (video audio : List UInt8) (pages : List OggPage) (page : OggPage),
      exportStreams (2 ^ 32 + 1) (packetsRecording (2 ^ 32)) ([] : List UInt8) ([] : List UInt8) 2 =
        some (.ok summary, video, audio) ∧
      oggPages audio = some pages ∧ pages[2 ^ 32]? = some page ∧
      page.sequence.toNat ≠ 2 ^ 32) ∧
    ∃ (summary : ExportSummary) (video audio : List UInt8) (pages : List OggPage) (page : OggPage),
      exportStreams (2 ^ 64 + 1) (packetsRecording (2 ^ 64)) ([] : List UInt8) ([] : List UInt8) 2 =
        some (.ok summary, video, audio) ∧
      oggPages audio = some pages ∧ pages[2 ^ 64 + 1]? = some page ∧
      page.granule.toNat ≠ playedSamples (List.replicate (2 ^ 64) [0xFC]) := by
  constructor
  · obtain ⟨summary, video, pages, ran, stream⟩ := exportStreams_packets (Nat.two_pow_pos 32) 2
    have long : 2 ^ 32 < pages.length := by
      rw [stream.count, List.length_replicate]
      exact Nat.lt_add_of_pos_right (by decide)
    refine ⟨summary, video, _, pages, pages[2 ^ 32], ran, oggPages_flatMap pages,
      List.getElem?_eq_getElem long, ?_⟩
    exact Nat.ne_of_lt (UInt32.toNat_lt _)
  · obtain ⟨summary, video, pages, ran, stream⟩ := exportStreams_packets (Nat.two_pow_pos 64) 2
    have long : 2 ^ 64 + 1 < pages.length := by
      rw [stream.count, List.length_replicate]
      exact Nat.lt_succ_self _
    refine ⟨summary, video, _, pages, pages[2 ^ 64 + 1], ran, oggPages_flatMap pages,
      List.getElem?_eq_getElem long, ?_⟩
    rw [playedSamples_replicate]
    have samples : samplesOf [0xFC] = 960 := rfl
    have small := UInt64.toNat_lt pages[2 ^ 64 + 1].granule
    omega

end Lumepeer.Media
