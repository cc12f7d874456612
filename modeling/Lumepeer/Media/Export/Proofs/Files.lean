import Lumepeer.Media.Export
import Lumepeer.Media.Export.Proofs.Stream
import Lumepeer.Media.Record.Proofs.Container

/-!
# What a failed export leaves

A file of an export is created when the first record of its track is read, and
nothing takes it away again. So an export that fails leaves the directory as it
was exactly if the damage stands before every record of a track.
-/

namespace Lumepeer.Media
open Lumepeer.Lib Lumepeer.Core

/-- The records `next_record` returns before the end of the stream or the first error. -/
def RecordReader.recordsRead {R : Type} [Read R] : Nat → RecordReader R → List Record
  | 0, _ => []
  | calls + 1, reader =>
      match reader.nextRecord with
      | (.error _, _) | (.ok none, _) => []
      | (.ok (some record), reader) => record :: reader.recordsRead calls

/-- The records of a source before its end or its first damage. -/
def recordsBefore {R : Type} [Read R] (calls : Nat) (source : R) : List Record :=
  match RecordReader.new source with
  | .error _ => []
  | .ok reader => reader.recordsRead calls

/-- The record belongs to a track, and is not an entry of the action log. -/
def Record.isMedia : Record → Bool
  | .video .. | .audio .. => true
  | .event .. => false

/-- The file keeps its path, and it stays once it is created. -/
structure LazyFile.Grows (before after : LazyFile) : Prop where
  path : after.path = before.path
  file : before.file.isSome = true → after.file.isSome = true

namespace LazyFile.Grows

theorem refl (sink : LazyFile) : Grows sink sink := ⟨rfl, id⟩

theorem trans {a b c : LazyFile} (first : Grows a b) (second : Grows b c) : Grows a c :=
  ⟨second.path.trans first.path, second.file ∘ first.file⟩

theorem writeAll (sink : LazyFile) (bytes : List UInt8) :
    ∃ sink', Write.writeAll sink bytes = (.ok (), sink') ∧ Grows sink sink' ∧
      (bytes ≠ [] → sink'.file.isSome = true) := by
  cases bytes with
  | nil => exact ⟨sink, rfl, refl sink, fun nonempty => absurd rfl nonempty⟩
  | cons byte bytes => exact ⟨_, rfl, ⟨rfl, fun _ => rfl⟩, fun _ => rfl⟩

end LazyFile.Grows

namespace OggOpusWriter

open LazyFile (Grows)

theorem signPage_ne_nil (page : List UInt8) : signPage page ≠ [] := by
  intro empty
  have length := congrArg List.length empty
  rw [signPage, List.length_append, List.length_append, length_toLeBytes32] at length
  simp only [List.length_nil] at length
  omega

/-- A page is written to the sink, unless its packet is too large. -/
theorem writePage_grows (writer : OggOpusWriter) (sink : LazyFile) (packet : List UInt8)
    (flags : UInt8) (granule : UInt64) :
    Grows sink (writer.writePage sink packet flags granule).2.2 ∧
      ((lacingValues packet.length).length ≤ oggMaxSegmentsPerPage →
        (writer.writePage sink packet flags granule).2.2.file.isSome = true) := by
  unfold writePage
  simp only
  split
  · rename_i long
    exact ⟨Grows.refl sink, fun short => absurd short (Nat.not_le.mpr long)⟩
  · obtain ⟨sink', written, grows, created⟩ := Grows.writeAll sink
      (signPage (unsignedPage (lacingValues packet.length) packet flags granule writer.sequence))
    rw [written]
    exact ⟨grows, fun _ => created (signPage_ne_nil _)⟩

theorem emit_grows (writer : OggOpusWriter) (sink : LazyFile) (packet : List UInt8) (last : Bool) :
    Grows sink (writer.emit sink packet last).2.2 := by
  unfold emit
  split
  · exact Grows.refl sink
  · exact (writePage_grows _ sink packet _ _).1

/-- The header pages create the file. -/
theorem begin_grows (sink : LazyFile) (channels : UInt8) :
    Grows sink (begin sink channels).2 ∧ (begin sink channels).2.file.isSome = true := by
  have short : (lacingValues (opusHead channels).length).length ≤ oggMaxSegmentsPerPage := by
    rw [length_lacingValues, length_opusHead]
    decide
  have fits : (asBytes opusTagsVendor).length < 2 ^ 32 := by decide
  obtain ⟨grows, created⟩ := writePage_grows { sequence := 0, granule := 0, pending := none } sink
    (opusHead channels) oggFlagBos 0
  unfold begin
  rcases wrote : writePage { sequence := 0, granule := 0, pending := none } sink
    (opusHead channels) oggFlagBos 0 with ⟨e | ⟨⟩, next, sink'⟩
  · rw [wrote] at grows created
    simp only [wrote]
    exact ⟨grows, created short⟩
  · rw [wrote] at grows created
    obtain ⟨more, -⟩ := writePage_grows next sink' opusTags 0 0
    simp only [wrote, if_pos fits]
    rcases tagged : next.writePage sink' opusTags 0 0 with ⟨e | ⟨⟩, last, sink''⟩
    · rw [tagged] at more
      simp only
      exact ⟨grows.trans more, more.file (created short)⟩
    · rw [tagged] at more
      simp only
      exact ⟨grows.trans more, more.file (created short)⟩

theorem writePacket_grows (writer : OggOpusWriter) (sink : LazyFile) (packet : List UInt8) :
    Grows sink (writer.writePacket sink packet).2.2 := by
  unfold writePacket
  split
  · exact Grows.refl sink
  · rename_i previous pending
    have grows := emit_grows { writer with pending := none } sink previous false
    split
    · rename_i failed
      rwa [failed] at grows
    · rename_i emitted
      rwa [emitted] at grows

theorem finish_grows (writer : OggOpusWriter) (sink : LazyFile) :
    Grows sink (writer.finish sink).2 := by
  unfold finish
  split
  · exact Grows.refl sink
  · rename_i last pending
    have grows := emit_grows { writer with pending := none } sink last true
    split
    · rename_i failed
      rwa [failed] at grows
    · rename_i emitted
      rw [emitted] at grows
      exact grows

end OggOpusWriter

namespace RecordReader

variable {R : Type} [Read R] {reader next : RecordReader R} {record : Record}

theorem payload_of_readPayload {kind : UInt8} {t : UInt64} {len : Nat}
    (read : reader.readPayload kind t len = (.ok (some record), next)) :
    record.payload.length = len ∧ len ≠ 0 := by
  unfold readPayload at read
  split at read
  · cases read
  · split at read
    · cases read
    · rename_i bounded
      have positive : len ≠ 0 := fun zero => bounded (.inl zero)
      split at read
      · split at read <;> cases read
      · rename_i payload inner taken
        refine ⟨?_, positive⟩
        split at read
        · cases read
          exact payload.toList_length
        · split at read
          · cases read
            exact payload.toList_length
          · split at read
            · cases read
            · rename_i line isText
              cases read
              rw [Record.payload, asBytes_of_fromUtf8 isText]
              exact payload.toList_length

/-- No record is read that has no payload. -/
theorem payload_ne_nil (read : reader.nextRecord = (.ok (some record), next)) :
    record.payload ≠ [] := by
  unfold nextRecord at read
  split at read
  · cases read
  · split at read
    · split at read <;> cases read
    · obtain ⟨length, positive⟩ := payload_of_readPayload read
      rintro empty
      rw [empty] at length
      exact positive length.symm

end RecordReader

/-- Both files of an export keep their paths, and stay once they are created. -/
structure Exporter.Grows (before after : Exporter LazyFile LazyFile) : Prop where
  video : before.video.Grows after.video
  audio : before.audio.Grows after.audio

namespace Exporter

theorem Grows.refl (exporter : Exporter LazyFile LazyFile) : Grows exporter exporter :=
  ⟨.refl _, .refl _⟩

theorem Grows.trans {a b c : Exporter LazyFile LazyFile} (first : Grows a b) (second : Grows b c) :
    Grows a c :=
  ⟨first.video.trans second.video, first.audio.trans second.audio⟩

/-- There is a file of one of the tracks. -/
def Left (video audio : LazyFile) : Prop := video.file.isSome = true ∨ audio.file.isSome = true

theorem Left.grows {before after : Exporter LazyFile LazyFile} (grows : Grows before after)
    (left : Left before.video before.audio) : Left after.video after.audio :=
  left.imp grows.video.file grows.audio.file

/-- A writer of the audio track comes with its file. -/
def Begun (exporter : Exporter LazyFile LazyFile) : Prop :=
  exporter.ogg.isSome = true → exporter.audio.file.isSome = true

variable {exporter : Exporter LazyFile LazyFile}

theorem oggWriter_grows (begun : Begun exporter) (channels : UInt8) :
    Grows exporter (exporter.oggWriter channels).2 ∧
      (exporter.oggWriter channels).2.audio.file.isSome = true := by
  unfold oggWriter
  cases isOgg : exporter.ogg with
  | some writer => exact ⟨.refl exporter, begun (by rw [isOgg]; rfl)⟩
  | none =>
      obtain ⟨grows, created⟩ := OggOpusWriter.begin_grows exporter.audio channels
      rcases began : OggOpusWriter.begin exporter.audio channels with ⟨e | writer, audio⟩
      · rw [began] at grows created
        exact ⟨⟨.refl _, grows⟩, created⟩
      · rw [began] at grows created
        exact ⟨⟨.refl _, grows⟩, created⟩

/-- A record of a track creates the file of the track; an entry of the log creates nothing. -/
theorem exportRecord_grows (begun : Begun exporter) (channels : UInt8) (record : Record)
    (solid : record.isMedia = true → record.payload ≠ []) :
    Grows exporter (exporter.exportRecord channels record).2 ∧
      Begun (exporter.exportRecord channels record).2 ∧
      (record.isMedia = true → Left (exporter.exportRecord channels record).2.video
        (exporter.exportRecord channels record).2.audio) := by
  cases record with
  | event t line => exact ⟨⟨.refl _, .refl _⟩, begun, nofun⟩
  | video t data =>
      obtain ⟨video, written, grows, created⟩ := LazyFile.Grows.writeAll exporter.video data
      rw [exportRecord, written]
      exact ⟨⟨grows, .refl _⟩, begun, fun isMedia => .inl (created (solid isMedia))⟩
  | audio t data =>
      obtain ⟨grows, created⟩ := oggWriter_grows begun channels
      rw [exportRecord]
      rcases began : exporter.oggWriter channels with ⟨e | writer, next⟩
      · rw [began] at grows created
        exact ⟨grows, fun _ => created, fun _ => .inr created⟩
      · rw [began] at grows created
        have more := OggOpusWriter.writePacket_grows writer next.audio data
        simp only
        rcases wrote : writer.writePacket next.audio data with ⟨e | ⟨⟩, writer', audio⟩
        · rw [wrote] at more
          have kept : audio.file.isSome = true := more.file created
          exact ⟨grows.trans ⟨.refl _, more⟩, fun _ => kept, fun _ => .inr kept⟩
        · rw [wrote] at more
          have kept : audio.file.isSome = true := more.file created
          exact ⟨grows.trans ⟨.refl _, more⟩, fun _ => kept, fun _ => .inr kept⟩

variable {R : Type} [Read R]

/-- An export that reads a record of a track leaves a file. -/
theorem exportRecords_grows {channels : UInt8} {calls : Nat} {reader : RecordReader R}
    {result : Except RecordingError Unit} {after : Exporter LazyFile LazyFile}
    (begun : Begun exporter)
    (ran : exporter.exportRecords channels calls reader = some (result, after)) :
    Grows exporter after ∧ ((∃ record ∈ reader.recordsRead calls, record.isMedia = true) →
      Left after.video after.audio) := by
  induction calls generalizing reader exporter with
  | zero => cases ran
  | succ calls ih =>
      rw [exportRecords] at ran
      rw [RecordReader.recordsRead]
      rcases polled : reader.nextRecord with ⟨e | (_ | record), next⟩
      · rw [polled] at ran
        cases ran
        exact ⟨.refl _, fun ⟨record, member, _⟩ => nomatch member⟩
      · rw [polled] at ran
        cases ran
        exact ⟨.refl _, fun ⟨record, member, _⟩ => nomatch member⟩
      · rw [polled] at ran
        obtain ⟨grows, stillBegun, left⟩ := exportRecord_grows begun channels record
          fun _ => RecordReader.payload_ne_nil polled
        rcases exported : exporter.exportRecord channels record with ⟨e | ⟨⟩, later⟩
        · simp only [exported] at ran
          cases ran
          rw [exported] at grows left
          have isMedia : record.isMedia = true := by
            cases record with
            | video t data | audio t data => rfl
            | event t line => cases exported
          exact ⟨grows, fun _ => left isMedia⟩
        · simp only [exported] at ran
          rw [exported] at grows stillBegun left
          obtain ⟨more, leftMore⟩ := ih stillBegun ran
          refine ⟨grows.trans more, ?_⟩
          rintro ⟨media, member, isMedia⟩
          rcases List.mem_cons.mp member with rfl | inRest
          · exact (left isMedia).grows more
          · exact leftMore ⟨media, inRest, isMedia⟩

/-- An export that reads entries of the log only leaves its files as they are. -/
theorem exportRecords_quiet {channels : UInt8} {calls : Nat} {reader : RecordReader R}
    {result : Except RecordingError Unit} {after : Exporter LazyFile LazyFile}
    (ran : exporter.exportRecords channels calls reader = some (result, after))
    (quiet : ∀ record ∈ reader.recordsRead calls, record.isMedia = false) :
    after.video = exporter.video ∧ after.audio = exporter.audio ∧ after.ogg = exporter.ogg := by
  induction calls generalizing reader exporter with
  | zero => cases ran
  | succ calls ih =>
      rw [exportRecords] at ran
      rw [RecordReader.recordsRead] at quiet
      rcases polled : reader.nextRecord with ⟨e | (_ | record), next⟩
      · rw [polled] at ran
        cases ran
        exact ⟨rfl, rfl, rfl⟩
      · rw [polled] at ran
        cases ran
        exact ⟨rfl, rfl, rfl⟩
      · rw [polled] at ran quiet
        obtain ⟨first, rest⟩ := List.forall_mem_cons.mp quiet
        cases record with
        | video t data | audio t data => cases first
        | event t line =>
            let summary :=
              { exporter.summary with eventsSkipped := exporter.summary.eventsSkipped + 1 }
            have tail : exportRecords channels calls next { exporter with summary } =
                some (result, after) := ran
            have kept := ih tail rest
            exact kept

/-- The end of an export writes to the audio file only, and to none where there is no writer. -/
theorem conclude_grows (exporter : Exporter LazyFile LazyFile) :
    exporter.conclude.2.1 = exporter.video ∧ exporter.audio.Grows exporter.conclude.2.2 ∧
      (exporter.ogg = none → exporter.conclude.2.2 = exporter.audio) := by
  unfold conclude
  cases isOgg : exporter.ogg with
  | none => exact ⟨rfl, .refl _, fun _ => rfl⟩
  | some writer =>
      have grows := OggOpusWriter.finish_grows writer exporter.audio
      simp only
      cases finished : writer.finish exporter.audio with
      | mk answer audio =>
          rw [finished] at grows
          cases answer with
          | error e => exact ⟨rfl, grows, nofun⟩
          | ok done => exact ⟨rfl, grows, nofun⟩

end Exporter

variable {R : Type} [Read R]

/-- What an export leaves of its two files: one of them, if there is a record of a track before the
damage, and neither, if there is none. -/
theorem exportStreams_left {calls : Nat} {source : R} {video audio : String} {channels : UInt8}
    {result : Except RecordingError ExportSummary} {video' audio' : LazyFile}
    (ran : exportStreams calls source (LazyFile.new video) (LazyFile.new audio) channels =
      some (result, video', audio')) :
    video'.path = video ∧ audio'.path = audio ∧
      ((∃ record ∈ recordsBefore calls source, record.isMedia = true) →
        Exporter.Left video' audio') ∧
      ((∀ record ∈ recordsBefore calls source, record.isMedia = false) →
        video' = LazyFile.new video ∧ audio' = LazyFile.new audio) := by
  rw [exportStreams] at ran
  rw [recordsBefore]
  cases opened : RecordReader.new source with
  | error e =>
      rw [opened] at ran
      cases ran
      refine ⟨rfl, rfl, ?_, fun _ => ⟨rfl, rfl⟩⟩
      rintro ⟨record, member, -⟩
      cases member
  | ok reader =>
      rw [opened] at ran
      simp only at ran ⊢
      generalize isStart :
        ({ summary := {}
           ogg := none
           video := LazyFile.new video
           audio := LazyFile.new audio } : Exporter LazyFile LazyFile) = start at ran
      have begun : start.Begun := by
        rw [← isStart]
        exact nofun
      cases looped : start.exportRecords channels calls reader with
      | none =>
          rw [looped] at ran
          cases ran
      | some outcome =>
          obtain ⟨answer, after⟩ := outcome
          obtain ⟨grows, left⟩ := Exporter.exportRecords_grows begun looped
          have quiet := Exporter.exportRecords_quiet looped
          rw [← isStart] at grows quiet
          rw [looped] at ran
          cases answer with
          | error e =>
              cases ran
              refine ⟨grows.video.path, grows.audio.path, left, fun silent => ?_⟩
              obtain ⟨sameVideo, sameAudio, -⟩ := quiet silent
              exact ⟨sameVideo, sameAudio⟩
          | ok done =>
              simp only [Option.some.injEq] at ran
              obtain ⟨isVideo, ends, silentEnd⟩ := Exporter.conclude_grows after
              rw [ran] at isVideo ends silentEnd
              simp only at isVideo ends silentEnd
              refine ⟨?_, ends.path.trans grows.audio.path, ?_, ?_⟩
              · rw [isVideo]
                exact grows.video.path
              · intro media
                rw [isVideo]
                exact (left media).imp_right ends.file
              · intro silent
                obtain ⟨sameVideo, sameAudio, noWriter⟩ := quiet silent
                exact ⟨isVideo.trans sameVideo, (silentEnd noWriter).trans sameAudio⟩

/-- The name of the video file. -/
def videoName (stem : String) : String := stem ++ "." ++ videoExtension

/-- The name of the audio file. -/
def audioName (stem : String) : String := stem ++ "." ++ audioExtension

/-- A file that was created is in the directory. -/
theorem LazyFile.store_isSome {lazyFile : LazyFile} (created : lazyFile.file.isSome = true)
    (dir : Directory) : (lazyFile.store dir lazyFile.path).isSome = true := by
  obtain ⟨contents, isFile⟩ := Option.isSome_iff_exists.mp created
  rw [store, isFile]
  simp

/-- A file in the directory is there after another one is stored. -/
theorem LazyFile.isSome_store (lazyFile : LazyFile) {dir : Directory} {name : String}
    (there : (dir name).isSome = true) : (lazyFile.store dir name).isSome = true := by
  unfold store
  cases lazyFile.file with
  | none => exact there
  | some contents =>
      by_cases same : name = lazyFile.path
      · simp [same]
      · simpa [same] using there

/-- What an export does to a directory is what it does to its two files, and it fails with the loop
over the records. -/
theorem exportOpen_cases {calls : Nat} {source : R} {stem : String} {e : RecordingError}
    {dir after : Directory} (failed : exportOpen calls source stem dir = some (.error e, after)) :
    ∃ video audio, exportStreams calls source (LazyFile.new (videoName stem))
        (LazyFile.new (audioName stem)) audioChannelsExported = some (.error e, video, audio) ∧
      ∀ dir, exportOpen calls source stem dir =
        some (.error e, audio.store (video.store dir)) := by
  unfold exportOpen at failed ⊢
  unfold videoName audioName
  simp only at failed ⊢
  split at failed
  · cases failed
  · rename_i result video audio ran
    cases result with
    | ok summary => cases failed
    | error other =>
        cases failed
        exact ⟨video, audio, ran, fun dir => rfl⟩

/-- An export that fails leaves every directory as it was exactly if no record of a track stands
before the damage; and a directory with no files of its names shows it. -/
theorem failed_export_leaves_nothing_iff (calls : Nat) (source : R) (stem : String)
    (e : RecordingError)
    (fails : ∃ dir after, exportOpen calls source stem dir = some (.error e, after)) :
    ((∀ dir, exportOpen calls source stem dir = some (.error e, dir)) ↔
      ∀ record ∈ recordsBefore calls source, record.isMedia = false) ∧
    ∀ dir : Directory, dir (videoName stem) = none → dir (audioName stem) = none →
      (exportOpen calls source stem dir = some (.error e, dir) ↔
        ∀ record ∈ recordsBefore calls source, record.isMedia = false) := by
  obtain ⟨dir, after, failed⟩ := fails
  obtain ⟨video, audio, ran, leaves⟩ := exportOpen_cases failed
  obtain ⟨videoPath, audioPath, left, quiet⟩ := exportStreams_left ran
  have kept (silent : ∀ record ∈ recordsBefore calls source, record.isMedia = false)
      (dir : Directory) : exportOpen calls source stem dir = some (.error e, dir) := by
    obtain ⟨rfl, rfl⟩ := quiet silent
    exact leaves dir
  have shown (dir : Directory) (noVideo : dir (videoName stem) = none)
      (noAudio : dir (audioName stem) = none)
      (same : exportOpen calls source stem dir = some (.error e, dir)) :
      ∀ record ∈ recordsBefore calls source, record.isMedia = false := by
    intro record member
    by_contra isMedia
    rw [leaves dir, Option.some.injEq, Prod.mk.injEq] at same
    rcases left ⟨record, member, Bool.not_eq_false _ ▸ isMedia⟩ with created | created
    · have there := audio.isSome_store (LazyFile.store_isSome created dir)
      rw [same.2, videoPath, noVideo] at there
      cases there
    · have there := LazyFile.store_isSome created (video.store dir)
      rw [same.2, audioPath, noAudio] at there
      cases there
  constructor
  · constructor
    · intro same
      exact shown (fun _ => none) rfl rfl (same _)
    · exact kept
  · intro dir noVideo noAudio
    exact ⟨shown dir noVideo noAudio, fun silent => kept silent dir⟩

/-- Bytes that are no recording leave nothing. -/
theorem no_recording_leaves_nothing :
    exportOpen 1 ([] : List UInt8) "session" (fun _ => none) =
      some (.error .badHeader, fun _ => none) := by
  have silent : ∀ record ∈ recordsBefore 1 ([] : List UInt8), record.isMedia = false := by
    intro record member
    cases member
  exact (failed_export_leaves_nothing_iff 1 ([] : List UInt8) "session" .badHeader
    ⟨fun _ => none, fun _ => none, rfl⟩).1.mpr silent _

/-- A recording with one picture and a record of an unknown kind behind it. -/
def damagedRecording : List UInt8 :=
  RecordingWriter.header ++ (Record.video 0 [0x65]).bytes ++ 9 :: List.replicate 15 0

/-- The picture before the damage stays in the directory. -/
theorem damaged_recording_leaves_video :
    ¬ ∀ (calls : Nat) (source : List UInt8) (stem : String) (dir : Directory)
      (e : RecordingError) (after : Directory),
        exportOpen calls source stem dir = some (.error e, after) → after = dir := by
  intro all
  have same := all 3 damagedRecording "session" (fun _ => none)
    (.corrupt "unknown record kind") _ rfl
  have there := congrFun same "session.h264"
  revert there
  decide

end Lumepeer.Media
