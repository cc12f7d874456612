import Lumepeer.Service.HostChannelProtocol

/-!
# What is written on the host channel is what is read

The decoders accept exactly the payloads of the requests and replies whose
fields are in their grammar, and a frame is read back whole: `readRequest` and
`readReply` read frames in the sense of `ReadsFrames`.
-/

namespace Lumepeer.Service
open Lumepeer.Lib
open Lumepeer.Core (isControl)

/-- A peer label: 1 to 64 bytes, no control characters. -/
def IsLabel (text : String) : Prop :=
  (1 ≤ (asBytes text).length ∧ (asBytes text).length ≤ 64) ∧ ∀ c ∈ text.toList, ¬ isControl c

/-- A grant name: 1 to 32 lowercase letters and underscores. -/
def IsGrantName (text : String) : Prop :=
  (1 ≤ (asBytes text).length ∧ (asBytes text).length ≤ 32) ∧
    ∀ b ∈ asBytes text, ('a'.toNat ≤ b.toNat ∧ b.toNat ≤ 'z'.toNat) ∨ b.toNat = '_'.toNat

/-- A chat line: 1 to 4096 bytes. -/
def IsChatLine (text : String) : Prop :=
  1 ≤ (asBytes text).length ∧ (asBytes text).length ≤ 4096

/-- A recording name: 1 to 128 bytes, no control characters and no separators. -/
def IsRecordingName (text : String) : Prop :=
  (1 ≤ (asBytes text).length ∧ (asBytes text).length ≤ 128) ∧
    ∀ c ∈ text.toList, ¬ isControl c ∧ c ≠ '/' ∧ c ≠ '\\'

/-- Every field is in its grammar. -/
def Request.InGrammar : Request → Prop
  | .transcript peer | .markChatRead peer | .endSession peer | .refusePending peer
  | .askToWiden peer _ => IsLabel peer
  | .lowerGrant peer grant => IsLabel peer ∧ IsGrantName grant
  | .sendChat peer text => IsLabel peer ∧ IsChatLine text
  | .exportRecording name => IsRecordingName name
  | .snapshot | .hostingOff | .installUpdate | .guestStores | .guestStoresTaken | .recordings
  | .unattendedOff | .acceptAfterSignInOff | .currentInvite | .invite _ => True

instance decidableForallChar (p : Char → Prop) [DecidablePred p] (text : String) :
    Decidable (∀ c ∈ text.toList, p c) :=
  List.decidableBAll p text.toList

instance decidableForallByte (p : UInt8 → Prop) [DecidablePred p] (bytes : List UInt8) :
    Decidable (∀ b ∈ bytes, p b) :=
  List.decidableBAll p bytes

instance : DecidablePred IsLabel := fun text => by
  unfold IsLabel
  infer_instance

instance : DecidablePred IsGrantName := fun text => by
  unfold IsGrantName
  infer_instance

instance : DecidablePred IsChatLine := fun text => by
  unfold IsChatLine
  infer_instance

instance : DecidablePred IsRecordingName := fun text => by
  unfold IsRecordingName
  infer_instance

instance : DecidablePred Request.InGrammar := fun request => by
  cases request <;> dsimp only [Request.InGrammar] <;> infer_instance

/-- The bytes of one frame. -/
def frameOf (kind : UInt8) (payload : List UInt8) : List UInt8 :=
  hostChannelMagic :: kind :: toLeBytes32 (UInt32.ofNat payload.length) ++ payload

/-! ## Frames -/

section Frames
variable {kind : UInt8} {payload stream rest : List UInt8} {max : Nat}

/-- A length is four bytes. -/
theorem toLeBytes32_eq (x : UInt32) : ∃ a b c d, toLeBytes32 x = [a, b, c, d] :=
  List.length_eq_four.mp (length_toLeBytes32 x)

theorem header_eq (header : Bytes headerLen) :
    ∃ magic kind a b c d, header.toList = [magic, kind, a, b, c, d] := by
  match header with
  | ⟨[magic, kind, a, b, c, d], _⟩ => exact ⟨magic, kind, a, b, c, d, rfl⟩

theorem fromLeBytes32_of_eq {x : UInt32} {a b c d : UInt8} (bytes : toLeBytes32 x = [a, b, c, d]) :
    fromLeBytes32 ⟨[a, b, c, d], rfl⟩ = x := by
  have same : (⟨[a, b, c, d], rfl⟩ : Bytes 4) = ⟨toLeBytes32 x, length_toLeBytes32 x⟩ :=
    Subtype.ext bytes.symm
  rw [same, fromLeBytes32_toLeBytes32]

/-- The rest of `readFrame`, once the header is read. -/
theorem readFrame_of_header {header : Bytes headerLen} {magic a b c d : UInt8} {len : Nat}
    (read : Read.readExact stream headerLen = (some header, rest))
    (spelled : header.toList = [magic, kind, a, b, c, d])
    (counted : (fromLeBytes32 ⟨[a, b, c, d], rfl⟩).toNat = len) :
    readFrame stream max =
      if magic ≠ hostChannelMagic then (none, rest)
      else if len > max then (none, rest) else readPayload rest kind len := by
  subst counted
  rw [readFrame, read]
  simp only [spelled]

theorem readPayload_append : readPayload (payload ++ rest) kind payload.length =
    (some (kind, payload), rest) := by
  simp only [readPayload, Read.readExact]
  rw [splitBytes_of_length rfl]
  rfl

/-- A frame's header is read, and its length is that of the payload. -/
theorem readFrame_frameOf_append (small : payload.length < 2 ^ 32) :
    readFrame (frameOf kind payload ++ rest) max =
      if payload.length > max then (none, payload ++ rest) else (some (kind, payload), rest) := by
  obtain ⟨a, b, c, d, bytes⟩ := toLeBytes32_eq (UInt32.ofNat payload.length)
  have counted : (fromLeBytes32 ⟨[a, b, c, d], rfl⟩).toNat = payload.length := by
    rw [fromLeBytes32_of_eq bytes, UInt32.toNat_ofNat_of_lt' small]
  have header : frameOf kind payload ++ rest =
      [hostChannelMagic, kind, a, b, c, d] ++ (payload ++ rest) := by
    simp [frameOf, bytes]
  have readHeader : Read.readExact (frameOf kind payload ++ rest) headerLen =
      (some ⟨[hostChannelMagic, kind, a, b, c, d], rfl⟩, payload ++ rest) := by
    simp only [Read.readExact, header]
    rw [splitBytes_of_length (n := headerLen) rfl]
  rw [readFrame_of_header readHeader rfl counted, if_neg (by simp), readPayload_append]

/-- What `readPayload` returns lay at the front of the stream. -/
theorem append_of_readPayload {len : Nat} {read : UInt8}
    (outcome : readPayload stream kind len = (some (read, payload), rest)) :
    read = kind ∧ payload.length = len ∧ stream = payload ++ rest := by
  simp only [readPayload, Read.readExact] at outcome
  cases split : splitBytes len stream with
  | none =>
      rw [split] at outcome
      cases outcome
  | some parts =>
      obtain ⟨first, left⟩ := parts
      rw [split] at outcome
      cases outcome
      exact ⟨rfl, first.toList_length, (append_of_splitBytes split).symm⟩

/-- What is read is a frame at the front of the stream. -/
theorem frameOf_of_readFrame (read : readFrame stream max = (some (kind, payload), rest)) :
    payload.length ≤ max ∧ payload.length < 2 ^ 32 ∧ stream = frameOf kind payload ++ rest := by
  cases split : splitBytes headerLen stream with
  | none =>
      simp only [readFrame, Read.readExact, split] at read
      cases read
  | some parts =>
      obtain ⟨header, left⟩ := parts
      have readHeader : Read.readExact stream headerLen = (some header, left) := by
        simp only [Read.readExact, split]
      obtain ⟨magic, kind', a, b, c, d, spelled⟩ := header_eq header
      rw [readFrame_of_header readHeader spelled rfl] at read
      split at read
      · cases read
      · rename_i isMagic
        split at read
        · cases read
        · rename_i fits
          obtain ⟨rfl, length, rfl⟩ := append_of_readPayload read
          have small : payload.length < 2 ^ 32 := by
            rw [length]
            exact UInt32.toNat_lt _
          refine ⟨by omega, small, ?_⟩
          have isLength : UInt32.ofNat payload.length = fromLeBytes32 ⟨[a, b, c, d], rfl⟩ := by
            rw [length, UInt32.ofNat_toNat]
          have bytes : toLeBytes32 (UInt32.ofNat payload.length) = [a, b, c, d] := by
            rw [isLength]
            exact toLeBytes32_fromLeBytes32 ⟨[a, b, c, d], rfl⟩
          have whole := append_of_splitBytes split
          rw [spelled, not_not.mp isMagic] at whole
          simp only [frameOf, bytes, ← whole, List.cons_append, List.nil_append]

/-- A frame and what follows it determine each other. -/
theorem frameOf_append_inj {kind' : UInt8} {payload' rest' : List UInt8}
    (small : payload.length < 2 ^ 32) (small' : payload'.length < 2 ^ 32)
    (same : frameOf kind payload ++ rest = frameOf kind' payload' ++ rest') :
    (kind, payload) = (kind', payload') ∧ rest = rest' := by
  have read : readFrame (frameOf kind payload ++ rest) (2 ^ 32) = (some (kind, payload), rest) := by
    rw [readFrame_frameOf_append small, if_neg (by omega)]
  rw [same, readFrame_frameOf_append small', if_neg (by omega)] at read
  cases read
  exact ⟨rfl, rfl⟩

end Frames

/-! ## Payloads -/

section Payloads
variable {payload : List UInt8} {text peer : String}

theorem asBytes_injective {one two : String} (same : asBytes one = asBytes two) : one = two := by
  have read := fromUtf8_asBytes one
  rw [same, fromUtf8_asBytes] at read
  exact (Option.some.inj read).symm

theorem fromUtf8_eq_some_iff : fromUtf8 payload = some text ↔ asBytes text = payload := by
  constructor
  · exact asBytes_of_fromUtf8
  · rintro rfl
    exact fromUtf8_asBytes text

theorem isLabel_iff : (!(asBytes text).isEmpty && (asBytes text).length ≤ maxLabelBytes &&
    !text.toList.any isControl) = true ↔ IsLabel text := by
  simp only [IsLabel, Bool.and_eq_true, Bool.not_eq_true', List.isEmpty_eq_false_iff,
    decide_eq_true_eq, List.any_eq_false, ← List.length_pos_iff, Nat.lt_iff_add_one_le, zero_add]
  rfl

theorem isRecordingName_iff : (!(asBytes text).isEmpty &&
    (asBytes text).length ≤ maxRecordingNameBytes &&
      !text.toList.any fun c => isControl c || c == '/' || c == '\\') = true ↔
    IsRecordingName text := by
  simp only [IsRecordingName, Bool.and_eq_true, Bool.not_eq_true', List.isEmpty_eq_false_iff,
    decide_eq_true_eq, List.any_eq_false, ← List.length_pos_iff, Nat.lt_iff_add_one_le, zero_add,
    Bool.or_eq_true, beq_iff_eq, not_or, and_assoc, ne_eq]
  rfl

/-- Text that is accepted only under a condition. -/
theorem ite_fromUtf8_eq_some_iff {ok : String → Bool} :
    (match fromUtf8 payload with
      | none => none
      | some text => if ok text then some text else none) = some text ↔
    ok text = true ∧ asBytes text = payload := by
  rw [← fromUtf8_eq_some_iff]
  cases fromUtf8 payload with
  | none => simp
  | some read => grind

theorem label_eq_some_iff : label payload = some text ↔ IsLabel text ∧ asBytes text = payload := by
  rw [← isLabel_iff]
  exact ite_fromUtf8_eq_some_iff

theorem recordingName_eq_some_iff :
    recordingName payload = some text ↔ IsRecordingName text ∧ asBytes text = payload := by
  rw [← isRecordingName_iff]
  exact ite_fromUtf8_eq_some_iff

/-- A label's length is within its byte. -/
theorem withLabel_of_isLabel (good : IsLabel peer) :
    withLabel peer text = UInt8.ofNat (asBytes peer).length :: (asBytes peer ++ asBytes text) := by
  have short := good.1.2
  rw [withLabel, Nat.min_eq_left (by omega)]

theorem labelAndRest_eq_some_iff :
    labelAndRest payload = some (peer, text) ↔ IsLabel peer ∧ withLabel peer text = payload := by
  constructor
  · intro read
    cases payload with
    | nil => cases read
    | cons len rest =>
        simp only [labelAndRest, Option.bind_eq_bind, Option.bind_eq_some_iff, Option.pure_def,
          Option.some.injEq, Prod.mk.injEq, Prod.exists] at read
        obtain ⟨first, tail, split, label', isLabel, text', isText, rfl, rfl⟩ := read
        obtain ⟨good, isFirst⟩ := label_eq_some_iff.mp isLabel
        have isTail := asBytes_of_fromUtf8 isText
        have length : (asBytes label').length = len.toNat := by
          rw [isFirst, first.toList_length]
        refine ⟨good, ?_⟩
        rw [withLabel_of_isLabel good, length, UInt8.ofNat_toNat, isFirst, isTail,
          append_of_splitBytes split]
  · rintro ⟨good, rfl⟩
    have length : (UInt8.ofNat (asBytes peer).length).toNat = (asBytes peer).length := by
      have short := good.1.2
      exact UInt8.toNat_ofNat_of_lt' (by simp only [UInt8.size]; omega)
    have split := splitBytes_of_length length.symm (asBytes text)
    have isLabel : label (asBytes peer) = some peer := label_eq_some_iff.mpr ⟨good, rfl⟩
    rw [withLabel_of_isLabel good]
    simp only [labelAndRest, split, Option.bind_eq_bind, Option.bind_some, List.Vector.toList,
      isLabel, fromUtf8_asBytes, Option.pure_def]

/-- A label over its bound is never taken for another: its length byte is over the bound too. -/
theorem withLabel_inj {other rest : String} (good : IsLabel peer)
    (same : withLabel other rest = withLabel peer text) : other = peer ∧ rest = text := by
  have short := good.1.2
  rw [withLabel_of_isLabel good, withLabel] at same
  obtain ⟨sameByte, sameBytes⟩ := List.cons.inj same
  have counted := congrArg UInt8.toNat sameByte
  rw [UInt8.toNat_ofNat_of_lt' (by simp only [UInt8.size]; omega),
    UInt8.toNat_ofNat_of_lt' (by simp only [UInt8.size]; omega)] at counted
  obtain ⟨samePeer, sameRest⟩ := List.append_inj sameBytes (by omega)
  exact ⟨asBytes_injective samePeer, asBytes_injective sameRest⟩

end Payloads
end Lumepeer.Service
