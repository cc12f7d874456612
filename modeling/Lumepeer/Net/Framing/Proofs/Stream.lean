import Lumepeer.Core.Wire.Proofs.Codec
import Lumepeer.Lib.Run
import Lumepeer.Net.Framing

/-!
# The framed control stream

Writer and reader count frames in the same way, so that what a writer numbered
is what a reader expects. `NumberedFrom` is that count: the writer's successful
calls leave a numbered list of envelopes on the stream, the reader returns a
numbered list whatever the stream holds, and a numbered list of frames is read
back to its end.
-/

namespace Lumepeer.Net
open Lumepeer.Lib Lumepeer.Core

/-- The envelopes carry the numbers from `seq` on. -/
def NumberedFrom : UInt64 → List MessageEnvelope → Prop
  | _, [] => True
  | seq, envelope :: rest => envelope.seq = seq ∧ NumberedFrom (saturatingAdd64 seq 1) rest

theorem NumberedFrom.seq_eq {seq : UInt64} {envelopes : List MessageEnvelope}
    (numbered : NumberedFrom seq envelopes) {i : Nat} {envelope : MessageEnvelope}
    (found : envelopes[i]? = some envelope) (fits : seq.toNat + i < 2 ^ 64) :
    envelope.seq.toNat = seq.toNat + i := by
  induction envelopes generalizing seq i with
  | nil => simp at found
  | cons head rest ih =>
      cases i with
      | zero =>
          cases found
          rw [numbered.1, Nat.add_zero]
      | succ i =>
          have next : (saturatingAdd64 seq 1).toNat = seq.toNat + 1 := by
            rw [toNat_saturatingAdd64, UInt64.toNat_one]
            omega
          rw [ih numbered.2 (by simpa using found) (by omega), next]
          omega

/-- The frame of an envelope: the length of its encoding and the encoding. -/
def frameOf (envelope : MessageEnvelope) : List UInt8 :=
  match envelope.encode with
  | .error _ => []
  | .ok payload => toBeBytes32 (UInt32.ofNat payload.length) ++ payload

namespace FrameWriter

/-- The envelopes of the calls that succeeded. -/
def sent (events : List (Event (FrameWriter (List UInt8)) MessageEnvelope
    (Except NetError Unit × MessageEnvelope))) : List MessageEnvelope :=
  events.filterMap fun event =>
    match event.out with
    | (.ok (), envelope) => some envelope
    | (.error _, _) => none

variable {writer : FrameWriter (List UInt8)} {envelope : MessageEnvelope}

theorem writeFrame_of_encode_error {refusal : CoreError}
    (refused : { envelope with seq := writer.nextSeq : MessageEnvelope }.encode = .error refusal) :
    writer.writeFrame envelope =
      ((.error (.framing refusal), { envelope with seq := writer.nextSeq }), writer) := by
  simp only [writeFrame, refused]

theorem writeFrame_of_encode_ok {payload : List UInt8}
    (encoded : { envelope with seq := writer.nextSeq : MessageEnvelope }.encode = .ok payload) :
    writer.writeFrame envelope =
      ((.ok (), { envelope with seq := writer.nextSeq }),
        { inner := writer.inner ++ frameOf { envelope with seq := writer.nextSeq },
          nextSeq := saturatingAdd64 writer.nextSeq 1 }) := by
  have fits : payload.length < 2 ^ 32 :=
    (MessageEnvelope.encode_eq_ok_iff.mp encoded).2.trans_lt (by decide)
  simp only [writeFrame, frameOf, encoded, if_pos fits, send, AsyncWrite.writeAll, AsyncWrite.flush,
    List.append_assoc]

/-- A call changes nothing of the envelope but its number. -/
theorem writeFrame_envelope : (writer.writeFrame envelope).1.2 =
    { envelope with seq := (writer.writeFrame envelope).1.2.seq } := by
  cases encoded : { envelope with seq := writer.nextSeq : MessageEnvelope }.encode with
  | error refusal => rw [writeFrame_of_encode_error encoded]
  | ok payload => rw [writeFrame_of_encode_ok encoded]

/-- A call succeeds if and only if its numbered envelope encodes. -/
theorem writeFrame_isOk_iff : (writer.writeFrame envelope).1.1 = .ok () ↔
    ∃ payload, (writer.writeFrame envelope).1.2.encode = .ok payload := by
  cases encoded : { envelope with seq := writer.nextSeq : MessageEnvelope }.encode with
  | error refusal => simp [writeFrame_of_encode_error encoded, encoded]
  | ok payload => simp [writeFrame_of_encode_ok encoded, encoded]

/-- What a run of calls leaves on the sink, and how it is numbered. -/
theorem written_of_run (writer : FrameWriter (List UInt8)) (calls : List MessageEnvelope) :
    (exec writeFrame writer calls).inner =
        writer.inner ++ (sent (history writeFrame writer calls)).flatMap frameOf ∧
      NumberedFrom writer.nextSeq (sent (history writeFrame writer calls)) ∧
      ∀ envelope ∈ sent (history writeFrame writer calls),
        ∃ payload, envelope.encode = .ok payload := by
  induction calls generalizing writer with
  | nil => simp [sent, NumberedFrom]
  | cons call calls ih =>
      cases encoded : { call with seq := writer.nextSeq : MessageEnvelope }.encode with
      | error refusal =>
          have step := writeFrame_of_encode_error encoded
          have skipped : sent (history writeFrame writer (call :: calls)) =
              sent (history writeFrame writer calls) := by
            simp only [sent, history_cons, List.filterMap_cons, Event.of_out, step]
          rw [exec_cons, skipped, step]
          exact ih writer
      | ok payload =>
          have step := writeFrame_of_encode_ok encoded
          obtain ⟨inner, numbered, encodes⟩ := ih (writer.writeFrame call).2
          have counted : sent (history writeFrame writer (call :: calls)) =
              { call with seq := writer.nextSeq } ::
                sent (history writeFrame (writer.writeFrame call).2 calls) := by
            simp only [sent, history_cons, List.filterMap_cons, Event.of_out, step]
          rw [exec_cons, counted, inner, List.flatMap_cons, ← List.append_assoc]
          refine ⟨?_, ⟨rfl, ?_⟩, ?_⟩
          · rw [step]
          · rw [step] at numbered ⊢
            exact numbered
          · intro envelope member
            rcases List.mem_cons.mp member with rfl | later
            · exact ⟨payload, encoded⟩
            · exact encodes envelope later

end FrameWriter

namespace FrameReader

theorem readExact_append {n : Nat} (first : Bytes n) (rest : List UInt8) :
    AsyncRead.readExact (first.toList ++ rest) n = (.ok first, rest) := by
  simp only [AsyncRead.readExact, splitBytes_append]

/-- A length prefix within the bounds and that many bytes: the bytes are judged. -/
theorem readFrame_of_length {reader : FrameReader (List UInt8)} {length : UInt32}
    {payload rest : List UInt8} (inner : reader.inner = toBeBytes32 length ++ (payload ++ rest))
    (counted : length.toNat = payload.length) (sized : checkFrameLength payload.length = .ok ()) :
    reader.readFrame = accept { reader with inner := rest } payload := by
  have readLength : AsyncRead.readExact (toBeBytes32 length ++ (payload ++ rest)) lengthPrefixBytes =
      (.ok ⟨toBeBytes32 length, length_toBeBytes32 length⟩, payload ++ rest) :=
    readExact_append ⟨toBeBytes32 length, length_toBeBytes32 length⟩ _
  have readBytes : AsyncRead.readExact (payload ++ rest) payload.length =
      (.ok ⟨payload, rfl⟩, rest) :=
    readExact_append ⟨payload, rfl⟩ rest
  rw [readFrame, inner, readLength]
  simp only
  rw [fromBeBytes32_toBeBytes32, counted, readPayload, sized]
  simp only [readBytes]
  rfl

/-- A frame of the expected number and direction is returned, and counted. -/
theorem readFrame_frameOf {reader : FrameReader (List UInt8)} {envelope : MessageEnvelope}
    {payload rest : List UInt8} (encoded : envelope.encode = .ok payload)
    (limits : envelope.checkLimits = .ok ()) (own : envelope.direction = reader.direction)
    (next : envelope.seq = reader.expectedSeq) (inner : reader.inner = frameOf envelope ++ rest) :
    reader.readFrame =
      (.ok envelope,
        { reader with inner := rest, expectedSeq := saturatingAdd64 reader.expectedSeq 1 }) := by
  obtain ⟨isPayload, fits⟩ := MessageEnvelope.encode_eq_ok_iff.mp encoded
  have nonempty : payload ≠ [] := by
    rw [← isPayload]
    exact envelope.encode_ne_nil
  have counted : (UInt32.ofNat payload.length).toNat = payload.length :=
    UInt32.toNat_ofNat_of_lt' (fits.trans_lt (by decide))
  have sized : checkFrameLength payload.length = .ok () := by
    simp [checkFrameLength, nonempty, fits]
  simp only [frameOf, encoded, List.append_assoc] at inner
  rw [readFrame_of_length inner counted sized, accept,
    MessageEnvelope.decode_of_encode limits encoded]
  simp only [own, next, ne_eq, not_true_eq_false, if_false]

/-- At the end of the stream a read fails. -/
theorem readFrame_nil {reader : FrameReader (List UInt8)} (inner : reader.inner = []) :
    reader.readFrame = (.error (.io "early eof"), { reader with inner := [] }) := by
  rw [readFrame, inner]
  rfl

/-- A numbered list of frames is read to its end, where the stream ends. -/
theorem readFrames_flatMap (reader : FrameReader (List UInt8)) {envelopes : List MessageEnvelope}
    (encodes : ∀ envelope ∈ envelopes, ∃ payload, envelope.encode = .ok payload)
    (accepted : ∀ envelope ∈ envelopes,
      envelope.direction = reader.direction ∧ envelope.checkLimits = .ok ())
    (numbered : NumberedFrom reader.expectedSeq envelopes)
    (inner : reader.inner = envelopes.flatMap frameOf) {calls : Nat}
    (enough : envelopes.length < calls) :
    reader.readFrames calls = (envelopes, some (.io "early eof")) := by
  induction envelopes generalizing reader calls with
  | nil =>
      obtain ⟨fewer, rfl⟩ : ∃ fewer, calls = fewer + 1 := ⟨calls - 1, by omega⟩
      rw [readFrames, readFrame_nil inner]
  | cons envelope rest ih =>
      obtain ⟨fewer, rfl⟩ : ∃ fewer, calls = fewer + 1 := ⟨calls - 1, by omega⟩
      rw [List.length_cons] at enough
      rw [List.flatMap_cons] at inner
      obtain ⟨payload, encoded⟩ := encodes envelope List.mem_cons_self
      obtain ⟨own, limits⟩ := accepted envelope List.mem_cons_self
      have step := readFrame_frameOf encoded limits own numbered.1 inner
      have readRest := ih
        { reader with
          inner := rest.flatMap frameOf, expectedSeq := saturatingAdd64 reader.expectedSeq 1 }
        (fun later member => encodes later (List.mem_cons_of_mem _ member))
        (fun later member => accepted later (List.mem_cons_of_mem _ member)) numbered.2 rfl
        (Nat.lt_of_succ_lt_succ enough)
      rw [readFrames, step]
      simp only [readRest]

section AnyStream
variable {R : Type} [AsyncRead R]

omit [AsyncRead R] in
theorem accept_eq_ok {reader next : FrameReader R} {payload : List UInt8}
    {envelope : MessageEnvelope} (returned : reader.accept payload = (.ok envelope, next)) :
    envelope.direction = reader.direction ∧ envelope.seq = reader.expectedSeq ∧
      next = { reader with expectedSeq := saturatingAdd64 reader.expectedSeq 1 } := by
  unfold accept at returned
  split at returned
  · cases returned
  · split at returned
    · cases returned
    · rename_i own
      split at returned
      · cases returned
      · rename_i expected
        cases returned
        exact ⟨Decidable.not_not.mp own, Decidable.not_not.mp expected, rfl⟩

/-- Whatever the stream holds, a frame that is returned is of the reader's direction and of the
number it expected. -/
theorem readFrame_eq_ok {reader next : FrameReader R} {envelope : MessageEnvelope}
    (returned : reader.readFrame = (.ok envelope, next)) :
    envelope.direction = reader.direction ∧ envelope.seq = reader.expectedSeq ∧
      next.direction = reader.direction ∧
      next.expectedSeq = saturatingAdd64 reader.expectedSeq 1 := by
  unfold readFrame readPayload at returned
  split at returned
  · cases returned
  · split at returned
    · cases returned
    · split at returned
      · cases returned
      · obtain ⟨own, expected, rfl⟩ := accept_eq_ok returned
        exact ⟨own, expected, rfl, rfl⟩

theorem readFrames_numbered (reader : FrameReader R) (calls : Nat) :
    NumberedFrom reader.expectedSeq (reader.readFrames calls).1 ∧
      ∀ envelope ∈ (reader.readFrames calls).1, envelope.direction = reader.direction := by
  induction calls generalizing reader with
  | zero => simp [readFrames, NumberedFrom]
  | succ calls ih =>
      rw [readFrames]
      cases answer : reader.readFrame with
      | mk result next =>
          cases result with
          | error e => simp [NumberedFrom]
          | ok envelope =>
              obtain ⟨own, number, sameDirection, counted⟩ := readFrame_eq_ok answer
              obtain ⟨numbered, allOwn⟩ := ih next
              rw [counted] at numbered
              rw [sameDirection] at allOwn
              refine ⟨⟨number, numbered⟩, ?_⟩
              intro later member
              rcases List.mem_cons.mp member with rfl | isLater
              · exact own
              · exact allOwn later isLater

end AnyStream

end FrameReader

/-- For every sequence of calls, those succeed whose numbered envelopes encode, the sink holds the
frames of these, numbered from 0 on, and a reader of their direction returns just these; and from
every source whatever a reader returns, before its first error, the numbers from 0 on in its own
direction. -/
theorem framed_control_stream (direction : Direction) (calls : List MessageEnvelope) :
    let events := history FrameWriter.writeFrame (FrameWriter.new []) calls
    let sent := FrameWriter.sent events
    let written := (exec FrameWriter.writeFrame (FrameWriter.new []) calls).inner
    (∀ event ∈ events, event.out.2 = { event.op with seq := event.out.2.seq } ∧
      (event.out.1 = .ok () ↔ ∃ payload, event.out.2.encode = .ok payload)) ∧
    written = sent.flatMap frameOf ∧
    (∀ i envelope, sent[i]? = some envelope → i < 2 ^ 64 → envelope.seq.toNat = i) ∧
    ((∀ envelope ∈ sent, envelope.direction = direction ∧ envelope.checkLimits = .ok ()) →
      ∀ reads, sent.length < reads →
        (FrameReader.new written direction).readFrames reads =
          (sent, some (.io "early eof"))) ∧
    ∀ (R : Type) [AsyncRead R] (source : R) (reads i : Nat) (envelope : MessageEnvelope),
      ((FrameReader.new source direction).readFrames reads).1[i]? = some envelope → i < 2 ^ 64 →
        envelope.seq.toNat = i ∧ envelope.direction = direction := by
  intro events sent written
  obtain ⟨appended, numbered, encodes⟩ := FrameWriter.written_of_run (FrameWriter.new []) calls
  have onSink : written = sent.flatMap frameOf := appended.trans (List.nil_append _)
  refine ⟨?_, onSink, ?_, ?_, ?_⟩
  · intro event member
    rw [eq_of_mem_history member]
    exact ⟨FrameWriter.writeFrame_envelope, FrameWriter.writeFrame_isOk_iff⟩
  · intro i envelope found fits
    have number := numbered.seq_eq found (by simpa [FrameWriter.new] using fits)
    simpa [FrameWriter.new] using number
  · intro accepted reads enough
    exact FrameReader.readFrames_flatMap _ encodes accepted numbered onSink enough
  · intro R _ source reads i envelope found fits
    obtain ⟨counted, own⟩ := FrameReader.readFrames_numbered (FrameReader.new source direction) reads
    refine ⟨?_, own envelope (List.mem_of_getElem? found)⟩
    have number := counted.seq_eq found (by simpa [FrameReader.new] using fits)
    simpa [FrameReader.new] using number

end Lumepeer.Net
