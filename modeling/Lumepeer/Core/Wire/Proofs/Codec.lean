import Lumepeer.Core.Wire

/-!
# The control message codec

`encode` and `decode` are a size check around the envelope's codec, and the
decoder also refuses what is left over and what breaks a limit. The laws of the
codec give the round trip, that a frame is read whole or not at all, and which
frames are written back the same.
-/

namespace Lumepeer.Core
open Lumepeer.Lib

namespace MessageEnvelope

variable {envelope : MessageEnvelope} {bytes : List UInt8}

theorem encode_ne_nil (envelope : MessageEnvelope) : Wire.messageEnvelope.encode envelope ≠ [] := by
  have long : 0 < (Wire.messageEnvelope.encode envelope).length := by
    show 0 < (envelope.sessionId.toList ++ _).length
    simp
  exact List.length_pos_iff.mp long

/-- `encode` hands out the codec's bytes when they fit a frame. -/
theorem encode_eq_ok_iff : envelope.encode = .ok bytes ↔
    Wire.messageEnvelope.encode envelope = bytes ∧ bytes.length ≤ maxControlFrameBytes := by
  have solid := envelope.encode_ne_nil
  unfold encode
  simp only [List.isEmpty_eq_false_iff.mpr solid, Bool.false_or, decide_eq_true_eq]
  split
  · rename_i tooLong
    constructor
    · intro impossible
      cases impossible
    · rintro ⟨rfl, fits⟩
      omega
  · rename_i fits
    constructor
    · intro encoded
      cases encoded
      exact ⟨rfl, by omega⟩
    · rintro ⟨rfl, -⟩
      rfl

theorem short_of_encode_eq_ok (encoded : envelope.encode = .ok bytes) :
    (Wire.messageEnvelope.encode envelope).length < 2 ^ 64 := by
  obtain ⟨rfl, fits⟩ := encode_eq_ok_iff.mp encoded
  exact fits.trans_lt (by decide)

/-- `decode` accepts what the codec reads to the end, if its size and its payload are within the
limits. -/
theorem decode_eq_ok_iff : decode bytes = .ok envelope ↔
    bytes ≠ [] ∧ bytes.length ≤ maxControlFrameBytes ∧
      Wire.messageEnvelope.decode bytes = some (envelope, []) ∧ envelope.checkLimits = .ok () := by
  unfold decode
  split
  · rename_i refused
    simp only [Bool.or_eq_true, List.isEmpty_iff, decide_eq_true_eq] at refused
    constructor
    · intro impossible
      cases impossible
    · rintro ⟨nonempty, fits, -⟩
      rcases refused with empty | tooLong
      · exact absurd empty nonempty
      · omega
  · rename_i sized
    simp only [Bool.or_eq_true, List.isEmpty_iff, decide_eq_true_eq, not_or, Nat.not_lt] at sized
    cases read : Wire.messageEnvelope.decode bytes with
    | none => simp
    | some value =>
        obtain ⟨found, rest⟩ := value
        cases rest with
        | cons b rest => simp
        | nil =>
            cases limits : found.checkLimits with
            | error refusal =>
                constructor
                · intro impossible
                  simp [limits] at impossible
                · rintro ⟨-, -, same, limits'⟩
                  cases same
                  rw [limits] at limits'
                  cases limits'
            | ok _ =>
                constructor
                · intro accepted
                  simp only [List.isEmpty_nil, Bool.not_true, Bool.false_eq_true, if_false, limits]
                    at accepted
                  cases accepted
                  exact ⟨sized.1, sized.2, rfl, limits⟩
                · rintro ⟨-, -, same, -⟩
                  cases same
                  simp only [List.isEmpty_nil, Bool.not_true, Bool.false_eq_true, if_false, limits]
                  rfl

theorem decode_of_encode (limits : envelope.checkLimits = .ok ())
    (encoded : envelope.encode = .ok bytes) : decode bytes = .ok envelope := by
  have short := short_of_encode_eq_ok encoded
  obtain ⟨rfl, fits⟩ := encode_eq_ok_iff.mp encoded
  refine decode_eq_ok_iff.mpr ⟨envelope.encode_ne_nil, fits, ?_, limits⟩
  simpa using Wire.messageEnvelope.decode_encode envelope [] short

/-- A frame the decoder accepts is a frame of which it accepts no extension. -/
theorem eq_nil_of_decode_append {envelope' : MessageEnvelope} {more : List UInt8}
    (accepted : decode bytes = .ok envelope) (extended : decode (bytes ++ more) = .ok envelope') :
    more = [] := by
  obtain ⟨-, -, read, -⟩ := decode_eq_ok_iff.mp accepted
  obtain ⟨-, -, readMore, -⟩ := decode_eq_ok_iff.mp extended
  have readOn := Wire.messageEnvelope.decode_append read more
  rw [List.nil_append, readMore] at readOn
  cases readOn
  rfl

/-- Whatever `decode` does not accept it refuses with an error. -/
theorem exists_error_of_forall_ne (refused : ∀ envelope, decode bytes ≠ .ok envelope) :
    ∃ refusal, decode bytes = .error refusal := by
  cases answer : decode bytes with
  | error refusal => exact ⟨refusal, rfl⟩
  | ok envelope => exact absurd answer (refused envelope)

/-- An envelope within its limits survives the wire; its frame is refused with anything after it
and when any of its end is missing; and every envelope that is read is within its limits. -/
theorem control_codec_round_trip (envelope : MessageEnvelope) :
    (envelope.checkLimits = .ok () → ∀ bytes, envelope.encode = .ok bytes →
      decode bytes = .ok envelope ∧
      (∀ more, more ≠ [] → ∃ refusal, decode (bytes ++ more) = .error refusal) ∧
      (∀ start, start <+: bytes → start ≠ bytes → ∃ refusal, decode start = .error refusal)) ∧
    (∀ bytes, decode bytes = .ok envelope → envelope.checkLimits = .ok ()) := by
  constructor
  · intro limits bytes encoded
    have accepted := decode_of_encode limits encoded
    refine ⟨accepted, ?_, ?_⟩
    · intro more some
      apply exists_error_of_forall_ne
      intro envelope' extended
      exact some (eq_nil_of_decode_append accepted extended)
    · rintro start ⟨missing, rfl⟩ proper
      apply exists_error_of_forall_ne
      intro envelope' short
      apply proper
      rw [eq_nil_of_decode_append short accepted, List.append_nil]
  · intro bytes accepted
    exact (decode_eq_ok_iff.mp accepted).2.2.2

/-- Of the frames that are read, those without a padded varint are the ones written back the
same. -/
theorem encode_of_decode_iff (accepted : decode bytes = .ok envelope) :
    envelope.encode = .ok bytes ↔
      ∀ spelling ∈ Wire.messageEnvelope.varints bytes, ¬ Padded spelling := by
  obtain ⟨-, fits, read, -⟩ := decode_eq_ok_iff.mp accepted
  constructor
  · intro encoded
    have short := short_of_encode_eq_ok encoded
    obtain ⟨rfl, -⟩ := encode_eq_ok_iff.mp encoded
    simpa using Wire.messageEnvelope.varints_encode envelope [] short
  · intro tight
    have written := Wire.messageEnvelope.encode_of_decode read tight
    rw [List.append_nil] at written
    exact encode_eq_ok_iff.mpr ⟨written, fits⟩

/-- A host's first message in the session 0, with nothing in its body. -/
def firstMessage (kind : MessageKind) : MessageEnvelope :=
  { sessionId := .replicate 16 0, direction := .hostToGuest, seq := 0, kind, body := [] }

/-- The frame of a first `SessionStart`. -/
def sessionStartFrame : List UInt8 := List.replicate 16 0 ++ [0, 0, 5, 0]

/-- The same frame with the sequence number 0 spelled in two bytes. -/
def paddedSessionStartFrame : List UInt8 := List.replicate 16 0 ++ [0, 0x80, 0, 5, 0]

theorem sessionStartFrame_written_back :
    decode sessionStartFrame = .ok (firstMessage .sessionStart) ∧
      (firstMessage .sessionStart).encode = .ok sessionStartFrame := by
  have accepted : decode sessionStartFrame = .ok (firstMessage .sessionStart) := by decide
  exact ⟨accepted, (encode_of_decode_iff accepted).mpr (by decide)⟩

/-- Two frames of one envelope, only one of which is the envelope's encoding. -/
theorem paddedSessionStartFrame_not_written_back :
    decode paddedSessionStartFrame = .ok (firstMessage .sessionStart) ∧
      decode sessionStartFrame = .ok (firstMessage .sessionStart) ∧
      sessionStartFrame ≠ paddedSessionStartFrame ∧
      (firstMessage .sessionStart).encode ≠ .ok paddedSessionStartFrame := by
  decide

end MessageEnvelope

end Lumepeer.Core
