import Lumepeer.Runtime.View

/-!
# Frames the loop lets through and the wire does not

The loop holds the bitstream to the bound of a media frame, the writer holds the
header and the bitstream to it. What fits with its header is written, read back
and decoded as it was; what only fits without it is refused by the writer, which
ends there.
-/

namespace Lumepeer.Runtime
open Lumepeer.Lib Lumepeer.Core Lumepeer.Net

/-- The frame of a payload on the wire. -/
def wireFrame (payload : List UInt8) : List UInt8 :=
  toBeBytes32 (UInt32.ofNat payload.length) ++ payload

theorem length_encodeMediaPayload (frame : EncodedFrame) :
    (encodeMediaPayload frame).length = mediaPayloadHeaderBytes + frame.data.length := by
  rw [encodeMediaPayload, List.length_cons, List.length_append, length_toLeBytes64,
    mediaPayloadHeaderBytes]
  omega

/-- A frame with a picture is decoded as it was encoded. -/
theorem decodeMediaPayload_encodeMediaPayload {frame : EncodedFrame} (picture : frame.data ≠ []) :
    decodeMediaPayload (encodeMediaPayload frame) = some frame := by
  have long : ¬(encodeMediaPayload frame).length ≤ mediaPayloadHeaderBytes := by
    have := List.length_pos_iff.mpr picture
    rw [length_encodeMediaPayload]
    omega
  have flag : decide ((if frame.keyframe then (1 : UInt8) else 0) ≠ 0) = frame.keyframe := by
    cases frame.keyframe <;> decide
  have taken : splitBytes 8 (encodeMediaPayload frame).tail =
      some (⟨toLeBytes64 frame.timestampUs, length_toLeBytes64 _⟩, frame.data) :=
    splitBytes_of_length (length_toLeBytes64 _) _
  rw [decodeMediaPayload, if_neg long, taken]
  show some (EncodedFrame.mk _ _ _) = _
  rw [flag, fromLeBytes64_toLeBytes64]

theorem checkMediaFrameLength_of_le {length : Nat} (some : length ≠ 0)
    (fits : length ≤ maxMediaFrameBytes) : checkMediaFrameLength length = .ok () := by
  simp [checkMediaFrameLength, some, fits]

/-- A payload within the bound is put on the wire. -/
theorem writeFrame_of_le {payload written : List UInt8} (some : payload.length ≠ 0)
    (fits : payload.length ≤ maxMediaFrameBytes) :
    (MediaFrameWriter.new written).writeFrame payload =
      (.ok (), .new (written ++ wireFrame payload)) := by
  have short : payload.length < 2 ^ 32 := Nat.lt_of_le_of_lt fits (by decide)
  have length : tryFrom32 payload.length = .some (UInt32.ofNat payload.length) := if_pos short
  rw [MediaFrameWriter.writeFrame, checkMediaFrameLength_of_le some fits, length]
  show (_, MediaFrameWriter.mk (written ++ _ ++ payload)) = _
  rw [List.append_assoc]
  rfl

/-- A payload past the bound is refused, and nothing is written. -/
theorem writeFrame_of_lt {payload : List UInt8} (large : maxMediaFrameBytes < payload.length)
    (writer : MediaFrameWriter (List UInt8)) : writer.writeFrame payload =
      (.error (.framing (.frameSize payload.length)), writer) := by
  have refused : checkMediaFrameLength payload.length = .error (.frameSize payload.length) := by
    simp [checkMediaFrameLength, large]
  rw [MediaFrameWriter.writeFrame, refused]

/-- A payload within the bound is read off the wire. -/
theorem readFrame_wireFrame {payload : List UInt8} (some : payload.length ≠ 0)
    (fits : payload.length ≤ maxMediaFrameBytes) (rest : List UInt8) :
    (MediaFrameReader.new (wireFrame payload ++ rest)).readFrame = (.ok payload, .new rest) := by
  have short : payload.length < 2 ^ 32 := Nat.lt_of_le_of_lt fits (by decide)
  have length : (fromBeBytes32 ⟨toBeBytes32 (UInt32.ofNat payload.length),
      length_toBeBytes32 _⟩).toNat = payload.length := by
    rw [fromBeBytes32_toBeBytes32]
    exact UInt32.toNat_ofNat_of_lt' short
  have readLength : splitBytes mediaLengthPrefixBytes (wireFrame payload ++ rest) =
      .some (⟨toBeBytes32 (UInt32.ofNat payload.length), length_toBeBytes32 _⟩,
        payload ++ rest) := by
    rw [wireFrame, List.append_assoc]
    exact splitBytes_of_length (length_toBeBytes32 _) _
  have readBytes : splitBytes payload.length (payload ++ rest) = .some (⟨payload, rfl⟩, rest) :=
    splitBytes_of_length rfl rest
  have judged : MediaFrameReader.readPayload (payload ++ rest) payload.length =
      (.ok payload, .new rest) := by
    simp only [MediaFrameReader.readPayload, AsyncRead.readExact,
      checkMediaFrameLength_of_le some fits, readBytes]
    rfl
  simp only [MediaFrameReader.readFrame, MediaFrameReader.new, AsyncRead.readExact, readLength]
  rw [length]
  exact judged

/-- A frame is carried: written, read back, decoded as it was, and small enough for a slot. -/
def Carried (frame : EncodedFrame) : Prop :=
  ∀ written rest : List UInt8, ∃ sent,
    (MediaFrameWriter.new written).writeFrame (encodeMediaPayload frame) =
      (.ok (), .new (written ++ sent)) ∧
    (MediaFrameReader.new (sent ++ rest)).readFrame = (.ok (encodeMediaPayload frame), .new rest) ∧
    decodeMediaPayload (encodeMediaPayload frame) = some frame ∧
    checkSlotPayload frame.data = .ok ()

/-- A frame that fits with its header. -/
def FitsWithHeader (frame : EncodedFrame) : Prop :=
  frame.data.length ≤ maxMediaFrameBytes - mediaPayloadHeaderBytes

theorem checkFrame_eq_handedOver_iff {frame : EncodedFrame} : checkFrame frame = .handedOver ↔
    frame.data ≠ [] ∧ frame.data.length ≤ maxMediaFrameBytes := by
  unfold checkFrame
  cases frame.data with
  | nil => simp
  | cons byte bytes =>
      simp only [List.isEmpty_cons, Bool.false_eq_true, if_false, ne_eq, reduceCtorEq,
        not_false_eq_true, true_and]
      by_cases large : (byte :: bytes).length > maxMediaFrameBytes
      · rw [if_pos large]
        exact iff_of_false (fun handed => by cases handed) (Nat.not_le.mpr large)
      · rw [if_neg large]
        exact iff_of_true rfl (Nat.not_lt.mp large)

theorem fitsWithHeader_iff {frame : EncodedFrame} : FitsWithHeader frame ↔
    (encodeMediaPayload frame).length ≤ maxMediaFrameBytes := by
  rw [length_encodeMediaPayload, FitsWithHeader]
  unfold maxMediaFrameBytes mediaPayloadHeaderBytes
  omega

theorem payload_ne_zero (frame : EncodedFrame) : (encodeMediaPayload frame).length ≠ 0 := by
  rw [length_encodeMediaPayload, mediaPayloadHeaderBytes]
  omega

theorem carried_of_fits {frame : EncodedFrame} (handed : checkFrame frame = .handedOver)
    (fits : FitsWithHeader frame) : Carried frame := by
  obtain ⟨picture, bounded⟩ := checkFrame_eq_handedOver_iff.mp handed
  have fits := fitsWithHeader_iff.mp fits
  intro written rest
  refine ⟨wireFrame (encodeMediaPayload frame), ?_, ?_, ?_, ?_⟩
  · exact writeFrame_of_le (payload_ne_zero frame) fits
  · exact readFrame_wireFrame (payload_ne_zero frame) fits rest
  · exact decodeMediaPayload_encodeMediaPayload picture
  · exact if_neg (Nat.not_lt.mpr bounded)

theorem not_carried_of_not_fits {frame : EncodedFrame} (large : ¬FitsWithHeader frame) :
    ¬Carried frame := by
  intro carried
  have large := Nat.not_le.mp (mt fitsWithHeader_iff.mpr large)
  obtain ⟨sent, written, -⟩ := carried [] []
  rw [writeFrame_of_lt large] at written
  cases written

/-- Frames that fit with their headers are all written, one behind the other. -/
theorem mediaWriter_of_fits {frames : List EncodedFrame}
    (fits : ∀ frame ∈ frames, FitsWithHeader frame) (written : List UInt8) : mediaWriter (.new written) frames =
      (none, .new (written ++ frames.flatMap fun frame => wireFrame (encodeMediaPayload frame))) := by
  induction frames generalizing written with
  | nil =>
      rw [List.flatMap_nil, List.append_nil]
      rfl
  | cons frame frames ih =>
      have first := fitsWithHeader_iff.mp (fits frame (List.mem_cons_self ..))
      rw [mediaWriter, writeFrame_of_le (payload_ne_zero frame) first, List.flatMap_cons,
        ← List.append_assoc]
      exact ih (fun frame member => fits frame (List.mem_cons_of_mem _ member)) _

/-- A frame that does not fit with its header ends the stream at the latest. -/
theorem mediaWriter_of_not_fits {frames : List EncodedFrame} {frame : EncodedFrame}
    (member : frame ∈ frames) (large : ¬FitsWithHeader frame)
    (writer : MediaFrameWriter (List UInt8)) : (mediaWriter writer frames).1 ≠ none := by
  induction frames generalizing writer with
  | nil => cases member
  | cons head frames ih =>
      rw [mediaWriter]
      split
      · exact Option.some_ne_none _
      · rename_i writer' wrote
        rcases List.mem_cons.mp member with rfl | later
        · have large := Nat.not_le.mp (mt fitsWithHeader_iff.mpr large)
          rw [writeFrame_of_lt large] at wrote
          cases wrote
        · exact ih later writer'

/-- What is on the wire is received to its end. -/
theorem receiveFrames_of_fits {frames : List EncodedFrame}
    (handed : ∀ frame ∈ frames, checkFrame frame = .handedOver)
    (fits : ∀ frame ∈ frames, FitsWithHeader frame) {reads : Nat} (enough : frames.length < reads) :
    receiveFrames reads (.new (frames.flatMap fun frame => wireFrame (encodeMediaPayload frame))) =
      (frames, some (.io "early eof")) := by
  induction frames generalizing reads with
  | nil =>
      obtain ⟨reads, rfl⟩ := Nat.exists_eq_add_of_le' enough
      rfl
  | cons frame frames ih =>
      obtain ⟨reads, rfl⟩ : ∃ k, reads = k + 1 := ⟨reads - 1, by omega⟩
      have first := fitsWithHeader_iff.mp (fits frame (List.mem_cons_self ..))
      obtain ⟨picture, -⟩ := checkFrame_eq_handedOver_iff.mp (handed frame (List.mem_cons_self ..))
      rw [receiveFrames, List.flatMap_cons, readFrame_wireFrame (payload_ne_zero frame) first]
      simp only
      rw [ih (fun frame member => handed frame (List.mem_cons_of_mem _ member))
        (fun frame member => fits frame (List.mem_cons_of_mem _ member))
        (Nat.lt_of_succ_lt_succ enough), decodeMediaPayload_encodeMediaPayload picture]
      rfl

/-- Of the frames the loop lets through, exactly those that fit with their header are carried; and
frames let through go over the media stream, to be received as they were, if and only if each of
them does. -/
theorem carried_iff (frames : List EncodedFrame) :
    (∀ frame, checkFrame frame = .handedOver → (Carried frame ↔ FitsWithHeader frame)) ∧
    ((∀ frame ∈ frames, checkFrame frame = .handedOver) →
      ((∃ sent : List UInt8, mediaWriter (.new []) frames = (none, .new sent) ∧
        ∀ reads, frames.length < reads →
          receiveFrames reads (.new sent) = (frames, some (.io "early eof"))) ↔
        ∀ frame ∈ frames, FitsWithHeader frame)) := by
  refine ⟨?_, ?_⟩
  · intro frame handed
    constructor
    · intro carried
      by_contra large
      exact not_carried_of_not_fits large carried
    · exact carried_of_fits handed
  · intro handed
    constructor
    · rintro ⟨sent, wrote, -⟩ frame member
      by_contra large
      have stopped := mediaWriter_of_not_fits member large (.new [])
      rw [wrote] at stopped
      exact stopped rfl
    · intro fits
      exact ⟨_, mediaWriter_of_fits fits [], fun reads enough =>
        receiveFrames_of_fits handed fits enough⟩

/-- A picture that fills the bound without its header. -/
def fullFrame : EncodedFrame :=
  { keyframe := true, timestampUs := 0, data := List.replicate maxMediaFrameBytes 0 }

theorem fullFrame_not_carried : ¬∀ frame, checkFrame frame = .handedOver → Carried frame := by
  intro always
  have length : fullFrame.data.length = maxMediaFrameBytes := List.length_replicate
  have picture : fullFrame.data ≠ [] := by
    intro nothing
    rw [nothing] at length
    cases length
  have handed := checkFrame_eq_handedOver_iff.mpr ⟨picture, Nat.le_of_eq length⟩
  have large : ¬FitsWithHeader fullFrame := by
    rw [FitsWithHeader, length]
    decide
  exact not_carried_of_not_fits large (always fullFrame handed)

end Lumepeer.Runtime
