import Lumepeer.Service.HostChannelProtocol.Proofs.Codec

/-!
# Requests and replies survive the host channel

A request is read back exactly when its fields are in their grammar, a reply
exactly when it was written, and nothing else is read. A request that is not in
the grammar is refused: no other request has its payload.
-/

namespace Lumepeer.Service
open Lumepeer.Lib

section Requests
variable {kind : UInt8} {payload : List UInt8} {request : Request}

/-- A grant name and a chat line, as `decode_request` tests them. -/
theorem isGrantName_iff {grant : String} : (!(asBytes grant).isEmpty &&
    (asBytes grant).length ≤ maxGrantBytes && (asBytes grant).all isGrantByte) = true ↔
    IsGrantName grant := by
  simp only [IsGrantName, Bool.and_eq_true, Bool.not_eq_true', List.isEmpty_eq_false_iff,
    decide_eq_true_eq, List.all_eq_true, ← List.length_pos_iff, Nat.lt_iff_add_one_le, zero_add,
    isGrantByte, Bool.or_eq_true, beq_iff_eq, UInt8.le_iff_toNat_le, ← UInt8.toNat_inj]
  rfl

theorem isChatLine_iff {text : String} :
    (!(asBytes text).isEmpty && (asBytes text).length ≤ maxChatBytes) = true ↔
      IsChatLine text := by
  simp only [IsChatLine, Bool.and_eq_true, Bool.not_eq_true', List.isEmpty_eq_false_iff,
    decide_eq_true_eq, ← List.length_pos_iff, Nat.lt_iff_add_one_le, zero_add]
  rfl

theorem Widening.toByte_of_fromByte {byte : UInt8} {widening : Widening}
    (read : Widening.fromByte byte = some widening) : widening.toByte = byte := by
  unfold Widening.fromByte at read
  split at read <;> cases read <;> rfl

/-- What a request in the grammar encodes to decodes to it. -/
theorem decodeRequest_encodeRequest (good : request.InGrammar) :
    decodeRequest (encodeRequest request).1 (encodeRequest request).2 = some request := by
  have isLabel {peer : String} (good : IsLabel peer) : label (asBytes peer) = some peer :=
    label_eq_some_iff.mpr ⟨good, rfl⟩
  have parts {peer : String} (rest : String) (good : IsLabel peer) :
      labelAndRest (withLabel peer rest) = some (peer, rest) :=
    labelAndRest_eq_some_iff.mpr ⟨good, rfl⟩
  cases request with
  | transcript peer => exact congrArg (Option.map Request.transcript) (isLabel good)
  | markChatRead peer => exact congrArg (Option.map Request.markChatRead) (isLabel good)
  | endSession peer => exact congrArg (Option.map Request.endSession) (isLabel good)
  | refusePending peer => exact congrArg (Option.map Request.refusePending) (isLabel good)
  | exportRecording name =>
      exact congrArg (Option.map Request.exportRecording)
        (recordingName_eq_some_iff.mpr ⟨good, rfl⟩)
  | askToWiden peer widening =>
      cases widening <;> exact congrArg (Option.map (Request.askToWiden · _)) (isLabel good)
  | lowerGrant peer grant =>
      show (labelAndRest (withLabel peer grant)).bind _ = _
      rw [parts grant good.1, Option.bind_some]
      exact if_pos (isGrantName_iff.mpr good.2)
  | sendChat peer text =>
      show (labelAndRest (withLabel peer text)).bind _ = _
      rw [parts text good.1, Option.bind_some]
      exact if_pos (isChatLine_iff.mpr good.2)
  | invite renew => cases renew <;> rfl
  | _ => rfl

/-- A request that is only a label. -/
theorem of_map_label {make : String → Request}
    (read : (label payload).map make = some request) :
    ∃ peer, IsLabel peer ∧ asBytes peer = payload ∧ request = make peer := by
  obtain ⟨peer, isLabel, rfl⟩ := Option.map_eq_some_iff.mp read
  obtain ⟨good, isPayload⟩ := label_eq_some_iff.mp isLabel
  exact ⟨peer, good, isPayload, rfl⟩

/-- A request without fields. -/
theorem of_ite_isEmpty {only : Request}
    (read : (if payload.isEmpty then some only else none) = some request) :
    payload = [] ∧ request = only := by
  split at read
  · cases read
    exact ⟨List.isEmpty_iff.mp ‹_›, rfl⟩
  · cases read

theorem of_decode_lowerGrant (read : decodeRequest kindLowerGrant payload = some request) :
    ∃ peer grant, IsLabel peer ∧ IsGrantName grant ∧ withLabel peer grant = payload ∧
      request = .lowerGrant peer grant := by
  obtain ⟨⟨peer, grant⟩, parts, made⟩ := Option.bind_eq_some_iff.mp read
  obtain ⟨good, isPayload⟩ := labelAndRest_eq_some_iff.mp parts
  simp only [Option.ite_none_right_eq_some, Option.some.injEq] at made
  exact ⟨peer, grant, good, isGrantName_iff.mp made.1, isPayload, made.2.symm⟩

theorem of_decode_sendChat (read : decodeRequest kindSendChat payload = some request) :
    ∃ peer text, IsLabel peer ∧ IsChatLine text ∧ withLabel peer text = payload ∧
      request = .sendChat peer text := by
  obtain ⟨⟨peer, text⟩, parts, made⟩ := Option.bind_eq_some_iff.mp read
  obtain ⟨good, isPayload⟩ := labelAndRest_eq_some_iff.mp parts
  simp only [Option.ite_none_right_eq_some, Option.some.injEq] at made
  exact ⟨peer, text, good, isChatLine_iff.mp made.1, isPayload, made.2.symm⟩

theorem of_map_recordingName
    (read : (recordingName payload).map Request.exportRecording = some request) :
    ∃ name, IsRecordingName name ∧ asBytes name = payload ∧ request = .exportRecording name := by
  obtain ⟨name, isName, rfl⟩ := Option.map_eq_some_iff.mp read
  obtain ⟨good, isPayload⟩ := recordingName_eq_some_iff.mp isName
  exact ⟨name, good, isPayload, rfl⟩

/-- What is decoded is in the grammar, and encodes to what it was decoded from. -/
theorem encodeRequest_of_decodeRequest (read : decodeRequest kind payload = some request) :
    request.InGrammar ∧ encodeRequest request = (kind, payload) := by
  unfold decodeRequest at read
  split at read
  case h_2 | h_3 | h_4 | h_6 =>
    obtain ⟨peer, good, rfl, rfl⟩ := of_map_label read
    exact ⟨good, rfl⟩
  case h_5 =>
    obtain ⟨peer, grant, good, isGrant, rfl, rfl⟩ := of_decode_lowerGrant read
    exact ⟨⟨good, isGrant⟩, rfl⟩
  case h_8 =>
    obtain ⟨peer, text, good, isLine, rfl, rfl⟩ := of_decode_sendChat read
    exact ⟨⟨good, isLine⟩, rfl⟩
  case h_9 =>
    split at read
    · cases read
    · rename_i byte peer
      cases isWidening : Widening.fromByte byte with
      | none =>
          rw [isWidening] at read
          cases read
      | some widening =>
          rw [isWidening] at read
          obtain ⟨peer, good, rfl, rfl⟩ := of_map_label read
          rw [← Widening.toByte_of_fromByte isWidening]
          exact ⟨good, rfl⟩
  case h_13 =>
    obtain ⟨name, good, rfl, rfl⟩ := of_map_recordingName read
    exact ⟨good, rfl⟩
  case h_18 =>
    split at read
    · cases read
      exact ⟨trivial, rfl⟩
    · cases read
      exact ⟨trivial, rfl⟩
    · cases read
  case h_19 => cases read
  all_goals
    obtain ⟨rfl, rfl⟩ := of_ite_isEmpty read
    exact ⟨trivial, rfl⟩

/-- What a request encodes to decodes to no other request. -/
theorem eq_of_decodeRequest_encodeRequest {other : Request}
    (read : decodeRequest (encodeRequest request).1 (encodeRequest request).2 = some other) :
    other = request := by
  cases request with
  | transcript peer | markChatRead peer | endSession peer | refusePending peer =>
      obtain ⟨other, good, same, rfl⟩ := of_map_label read
      rw [asBytes_injective same]
  | exportRecording name =>
      obtain ⟨other, good, same, rfl⟩ := of_map_recordingName read
      rw [asBytes_injective same]
  | askToWiden peer widening =>
      have decoded : (label (asBytes peer)).map (Request.askToWiden · widening) = some other := by
        cases widening <;> exact read
      obtain ⟨other, good, same, rfl⟩ := of_map_label decoded
      rw [asBytes_injective same]
  | lowerGrant peer grant =>
      obtain ⟨other, rest, good, -, same, rfl⟩ := of_decode_lowerGrant read
      obtain ⟨rfl, rfl⟩ := withLabel_inj good same.symm
      rfl
  | sendChat peer text =>
      obtain ⟨other, rest, good, -, same, rfl⟩ := of_decode_sendChat read
      obtain ⟨rfl, rfl⟩ := withLabel_inj good same.symm
      rfl
  | invite renew => cases renew <;> exact (Option.some.inj read).symm
  | _ => exact (Option.some.inj read).symm

/-- A request in the grammar fits a frame. -/
theorem length_encodeRequest_le (good : request.InGrammar) :
    (encodeRequest request).2.length ≤ maxRequestPayload := by
  simp only [maxRequestPayload, maxLabelBytes, maxChatBytes]
  cases request with
  | transcript peer | markChatRead peer | endSession peer | refusePending peer =>
      have short := good.1.2
      exact short.trans (by omega)
  | askToWiden peer widening =>
      have short := good.1.2
      simp only [encodeRequest, List.length_cons]
      omega
  | lowerGrant peer grant =>
      have short := good.1.1.2
      have shortRest := good.2.1.2
      simp only [encodeRequest, withLabel, List.length_cons, List.length_append]
      omega
  | sendChat peer text =>
      have short := good.1.1.2
      have shortRest := good.2.2
      simp only [encodeRequest, withLabel, List.length_cons, List.length_append]
      omega
  | exportRecording name =>
      have short := good.1.2
      exact short.trans (by omega)
  | _ => exact Nat.le_add_left _ _

/-- A request's kind is below the replies'. -/
theorem encodeRequest_kind_lt (request : Request) : (encodeRequest request).1 < replyKindFloor := by
  cases request <;> dsimp only [encodeRequest] <;> decide

end Requests

section Replies
variable {kind : UInt8} {payload : List UInt8} {reply : Reply}

theorem decodeReply_eq_some_iff :
    decodeReply kind payload = some reply ↔ encodeReply reply = (kind, payload) := by
  constructor
  · intro read
    unfold decodeReply at read
    split at read
    case h_3 | h_4 =>
      split at read
      · rename_i empty
        cases read
        rw [List.isEmpty_iff.mp empty]
        rfl
      · cases read
    case h_9 => cases read
    all_goals
      cases read
      rfl
  · intro encoded
    cases reply <;> cases encoded <;> rfl

theorem decodeReply_encodeReply (reply : Reply) :
    decodeReply (encodeReply reply).1 (encodeReply reply).2 = some reply :=
  decodeReply_eq_some_iff.mpr rfl

/-- A reply's kind is not below the requests'. -/
theorem le_encodeReply_kind (reply : Reply) : replyKindFloor ≤ (encodeReply reply).1 := by
  cases reply <;> dsimp only [encodeReply] <;> decide

end Replies

/-! ## Streams -/

section Streams
variable {kind : UInt8} {payload written stream rest : List UInt8} {room : Nat}

theorem writeFrame_list (small : payload.length < 2 ^ 32) :
    writeFrame written kind payload = (true, written ++ frameOf kind payload) := by
  rw [writeFrame, if_pos small]
  rfl

theorem writeFrame_slots (small : payload.length < 2 ^ 32) :
    writeFrame (Slots.mk [] room) kind payload =
      (decide ((frameOf kind payload).length ≤ room),
        { written := (frameOf kind payload).take room
          room := room - (frameOf kind payload).length }) := by
  rw [writeFrame, if_pos small]
  have wrote : Write.writeAll (Slots.mk [] room) (frameOf kind payload) =
      (decide ((frameOf kind payload).length ≤ room),
        { written := (frameOf kind payload).take room
          room := room - (frameOf kind payload).length }) := rfl
  simp only [frameOf] at wrote ⊢
  rw [wrote]
  split <;> simp_all [Write.flush]

/-- A length that fits no word is not written, in either sink. -/
theorem writeFrame_of_long {W : Type} [Write W] (writer : W) (long : ¬ payload.length < 2 ^ 32) :
    writeFrame writer kind payload = (false, writer) := by
  rw [writeFrame, if_neg long]

/-- The frame of a request. -/
def requestFrame (request : Request) : List UInt8 :=
  frameOf (encodeRequest request).1 (encodeRequest request).2

/-- The frame of a reply. -/
def replyFrame (reply : Reply) : List UInt8 := frameOf (encodeReply reply).1 (encodeReply reply).2

/-- The request's payload has a length that fits a word: its frame is sent. -/
def Request.Sendable (request : Request) : Prop := (encodeRequest request).2.length < 2 ^ 32

instance : DecidablePred Request.Sendable := fun request => by
  unfold Request.Sendable
  infer_instance

/-- The reply's payload is within the bound. -/
def Reply.Fits (reply : Reply) : Prop := (encodeReply reply).2.length ≤ maxReplyPayload

instance : DecidablePred Reply.Fits := fun reply => by
  unfold Reply.Fits
  infer_instance

theorem sendable_of_inGrammar {request : Request} (good : request.InGrammar) : request.Sendable :=
  (length_encodeRequest_le good).trans_lt (by decide)

theorem small_of_fits {reply : Reply} (fits : reply.Fits) :
    (encodeReply reply).2.length < 2 ^ 32 :=
  fits.trans_lt (by decide)

theorem writeRequest_of_sendable {request : Request} (sent : request.Sendable) :
    writeRequest written request = (true, written ++ requestFrame request) :=
  writeFrame_list sent

theorem writeRequest_of_not_sendable {W : Type} [Write W] {writer : W} {request : Request}
    (long : ¬ request.Sendable) : writeRequest writer request = (false, writer) :=
  writeFrame_of_long writer long

theorem writeReply_of_fits {reply : Reply} (fits : reply.Fits) :
    writeReply written reply = (true, written ++ replyFrame reply) := by
  rw [writeReply]
  simp only
  rw [if_pos (show (encodeReply reply).2.length ≤ maxReplyPayload from fits),
    writeFrame_list (small_of_fits fits)]
  rfl

theorem writeReply_of_not_fits {W : Type} [Write W] {writer : W} {reply : Reply}
    (long : ¬ reply.Fits) : writeReply writer reply = (false, writer) := by
  rw [writeReply]
  simp only
  rw [if_neg (show ¬ (encodeReply reply).2.length ≤ maxReplyPayload from long)]

theorem readRequest_eq_some_iff {request : Request} :
    readRequest stream = (some request, rest) ↔
      request.InGrammar ∧ stream = requestFrame request ++ rest := by
  constructor
  · intro read
    cases frame : readFrame stream maxRequestPayload with
    | mk answer left =>
        cases answer with
        | none =>
            rw [readRequest, frame] at read
            cases read
        | some parts =>
            obtain ⟨kind, payload⟩ := parts
            rw [readRequest, frame] at read
            simp only at read
            split at read
            · cases read
            · obtain ⟨decoded, rfl⟩ := Prod.ext_iff.mp read
              obtain ⟨good, encoded⟩ := encodeRequest_of_decodeRequest decoded
              obtain ⟨-, -, isFrame⟩ := frameOf_of_readFrame frame
              refine ⟨good, ?_⟩
              rw [isFrame, requestFrame, encoded]
  · rintro ⟨good, rfl⟩
    have below : ¬ (encodeRequest request).1 ≥ replyKindFloor :=
      UInt8.not_le.mpr (encodeRequest_kind_lt request)
    rw [readRequest, requestFrame, readFrame_frameOf_append (sendable_of_inGrammar good),
      if_neg (not_lt.mpr (length_encodeRequest_le good))]
    simp only
    rw [if_neg below, decodeRequest_encodeRequest good]

theorem readReply_eq_some_iff {reply : Reply} :
    readReply stream = (some reply, rest) ↔ reply.Fits ∧ stream = replyFrame reply ++ rest := by
  constructor
  · intro read
    cases frame : readFrame stream maxReplyPayload with
    | mk answer left =>
        cases answer with
        | none =>
            rw [readReply, frame] at read
            cases read
        | some parts =>
            obtain ⟨kind, payload⟩ := parts
            rw [readReply, frame] at read
            obtain ⟨decoded, rfl⟩ := Prod.ext_iff.mp read
            have encoded := decodeReply_eq_some_iff.mp decoded
            obtain ⟨fits, -, isFrame⟩ := frameOf_of_readFrame frame
            rw [Reply.Fits, isFrame, replyFrame, encoded]
            exact ⟨fits, rfl⟩
  · rintro ⟨fits, rfl⟩
    rw [readReply, replyFrame, readFrame_frameOf_append (small_of_fits fits),
      if_neg (not_lt.mpr fits)]
    simp only
    rw [decodeReply_encodeReply]

/-- Requests are read as frames, those in the grammar being valid. -/
theorem readRequest_reads :
    ReadsFrames readRequest requestFrame Request.Sendable Request.InGrammar where
  read_iff _ _ _ := readRequest_eq_some_iff
  apart := by
    intro message valid rest rest' sent good same
    obtain ⟨sameParts, sameRest⟩ := frameOf_append_inj sent (sendable_of_inGrammar good) same
    refine ⟨?_, sameRest⟩
    have decoded := decodeRequest_encodeRequest good
    rw [← Prod.ext_iff.mp sameParts |>.1, ← Prod.ext_iff.mp sameParts |>.2] at decoded
    exact (eq_of_decodeRequest_encodeRequest decoded).symm
  ends := rfl

/-- Replies are read as frames, those within the bound being valid. -/
theorem readReply_reads : ReadsFrames readReply replyFrame Reply.Fits Reply.Fits where
  read_iff _ _ _ := readReply_eq_some_iff
  apart := by
    intro message valid rest rest' fits fitsValid same
    obtain ⟨sameParts, sameRest⟩ :=
      frameOf_append_inj (small_of_fits fits) (small_of_fits fitsValid) same
    have decoded := decodeReply_encodeReply valid
    rw [← Prod.ext_iff.mp sameParts |>.1, ← Prod.ext_iff.mp sameParts |>.2,
      decodeReply_encodeReply] at decoded
    exact ⟨Option.some.inj decoded, sameRest⟩
  ends := rfl

/-- The stream on which the requests were written one after another. -/
def wireOfRequests (requests : List Request) : List UInt8 :=
  requests.foldl (fun wire request => (writeRequest wire request).2) []

/-- The stream on which the replies were written one after another. -/
def wireOfReplies (replies : List Reply) : List UInt8 :=
  replies.foldl (fun wire reply => (writeReply wire reply).2) []

theorem foldl_writeRequest (requests : List Request) :
    requests.foldl (fun wire request => (writeRequest wire request).2) written =
      written ++ (requests.filter fun request => decide request.Sendable).flatMap requestFrame := by
  induction requests generalizing written with
  | nil => simp
  | cons request later ih =>
      rw [List.foldl_cons, ih]
      by_cases sent : request.Sendable
      · rw [writeRequest_of_sendable sent, List.filter_cons_of_pos (by simpa using sent),
          List.flatMap_cons, List.append_assoc]
      · rw [writeRequest_of_not_sendable sent, List.filter_cons_of_neg (by simpa using sent)]

theorem foldl_writeReply (replies : List Reply) :
    replies.foldl (fun wire reply => (writeReply wire reply).2) written =
      written ++ (replies.filter fun reply => decide reply.Fits).flatMap replyFrame := by
  induction replies generalizing written with
  | nil => simp
  | cons reply later ih =>
      rw [List.foldl_cons, ih]
      by_cases fits : reply.Fits
      · rw [writeReply_of_fits fits, List.filter_cons_of_pos (by simpa using fits),
          List.flatMap_cons, List.append_assoc]
      · rw [writeReply_of_not_fits fits, List.filter_cons_of_neg (by simpa using fits)]

/-- The requests whose frames were sent are read up to the first outside the grammar. -/
theorem readAll_wireOfRequests (requests : List Request) :
    readAll readRequest (requests.length + 1) (wireOfRequests requests) =
      (requests.filter fun request => (writeRequest ([] : List UInt8) request).1).takeWhile
        fun request => decide request.InGrammar := by
  have sent : (requests.filter fun request => (writeRequest ([] : List UInt8) request).1) =
      requests.filter fun request => decide request.Sendable := by
    refine List.filter_congr fun request _ => ?_
    by_cases sendable : request.Sendable
    · rw [writeRequest_of_sendable sendable, decide_eq_true sendable]
    · rw [writeRequest_of_not_sendable sendable, decide_eq_false sendable]
  rw [sent, wireOfRequests, foldl_writeRequest, List.nil_append]
  exact readRequest_reads.readAll_flatMap (fun request member => by simpa using
    (List.mem_filter.mp member).2) (Nat.lt_succ_of_le (List.length_filter_le _ _))

/-- The replies that were written are read. -/
theorem readAll_wireOfReplies (replies : List Reply) :
    readAll readReply (replies.length + 1) (wireOfReplies replies) =
      replies.filter fun reply => (writeReply ([] : List UInt8) reply).1 := by
  have sent : (replies.filter fun reply => (writeReply ([] : List UInt8) reply).1) =
      replies.filter fun reply => decide reply.Fits := by
    refine List.filter_congr fun reply _ => ?_
    by_cases fits : reply.Fits
    · rw [writeReply_of_fits fits, decide_eq_true fits]
    · rw [writeReply_of_not_fits fits, decide_eq_false fits]
  have allFit : ∀ reply ∈ replies.filter fun reply => decide reply.Fits, reply.Fits :=
    fun reply member => by simpa using (List.mem_filter.mp member).2
  rw [sent, wireOfReplies, foldl_writeReply, List.nil_append,
    readReply_reads.readAll_flatMap allFit (Nat.lt_succ_of_le (List.length_filter_le _ _))]
  exact List.takeWhile_eq_self_iff.mpr fun reply member => by simpa using allFit reply member

/-- Requests in the grammar are all read. -/
theorem readAll_of_inGrammar {requests : List Request}
    (good : ∀ request ∈ requests, request.InGrammar) :
    readAll readRequest (requests.length + 1) (wireOfRequests requests) = requests := by
  have sent : (requests.filter fun request => (writeRequest ([] : List UInt8) request).1) =
      requests := by
    refine List.filter_eq_self.mpr fun request member => ?_
    rw [writeRequest_of_sendable (sendable_of_inGrammar (good request member))]
  rw [readAll_wireOfRequests, sent]
  exact List.takeWhile_eq_self_iff.mpr fun request member => by simpa using good request member

/-- No stream is accepted in both directions. -/
theorem readRequest_or_readReply_none (stream : List UInt8) :
    (readRequest stream).1 = none ∨ (readReply stream).1 = none := by
  cases asRequest : readRequest stream with
  | mk request rest =>
      cases asReply : readReply stream with
      | mk reply rest' =>
          cases request with
          | none => exact .inl rfl
          | some request =>
              cases reply with
              | none => exact .inr rfl
              | some reply =>
                  obtain ⟨good, isRequest⟩ := readRequest_eq_some_iff.mp asRequest
                  obtain ⟨fits, isReply⟩ := readReply_eq_some_iff.mp asReply
                  have sameParts := (frameOf_append_inj (sendable_of_inGrammar good)
                    (small_of_fits fits) (isRequest.symm.trans isReply)).1
                  have below := encodeRequest_kind_lt request
                  rw [(Prod.ext_iff.mp sameParts).1] at below
                  exact absurd (le_encodeReply_kind reply) (UInt8.not_le.mpr below)

/-- A request is read back from its own frame exactly when it is in the grammar. -/
theorem readRequest_writeRequest (request : Request) :
    (readRequest (writeRequest ([] : List UInt8) request).2).1 =
      if request.InGrammar then some request else none := by
  by_cases sent : request.Sendable
  · have whole := readRequest_reads.read_take sent (requestFrame request).length
    rw [List.take_length] at whole
    rw [writeRequest_of_sendable sent, List.nil_append, whole]
    simp only [le_refl, true_and]
  · rw [writeRequest_of_not_sendable sent,
      if_neg (fun good => sent (sendable_of_inGrammar good))]
    exact readRequest_reads.ends

theorem readReply_writeReply (reply : Reply) :
    (readReply (writeReply ([] : List UInt8) reply).2).1 =
      if (encodeReply reply).2.length ≤ maxReplyPayload then some reply else none := by
  show _ = if reply.Fits then some reply else none
  by_cases fits : reply.Fits
  · rw [writeReply_of_fits fits, List.nil_append, readReply_reads.read_frame fits, if_pos fits]
  · rw [writeReply_of_not_fits fits, if_neg fits]
    exact readReply_reads.ends

/-- What a sink of some room is given of a request is read as the request or not at all. -/
theorem readRequest_slots (request : Request) (room : Nat) :
    (readRequest (writeRequest (Slots.mk [] room) request).2.written).1 =
      if (writeRequest (Slots.mk [] room) request).1 = true ∧ request.InGrammar then some request
      else none := by
  by_cases sent : request.Sendable
  · have wrote : writeRequest (Slots.mk [] room) request =
        (decide ((requestFrame request).length ≤ room),
          { written := (requestFrame request).take room
            room := room - (requestFrame request).length }) := writeFrame_slots sent
    rw [wrote, readRequest_reads.read_take sent]
    simp only [decide_eq_true_eq]
  · rw [writeRequest_of_not_sendable sent, if_neg (by simp)]
    exact readRequest_reads.ends

theorem readReply_slots (reply : Reply) (room : Nat) :
    (readReply (writeReply (Slots.mk [] room) reply).2.written).1 =
      if (writeReply (Slots.mk [] room) reply).1 = true then some reply else none := by
  by_cases fits : reply.Fits
  · have wrote : writeReply (Slots.mk [] room) reply =
        (decide ((replyFrame reply).length ≤ room),
          { written := (replyFrame reply).take room
            room := room - (replyFrame reply).length }) := by
      rw [writeReply]
      simp only
      rw [if_pos (show (encodeReply reply).2.length ≤ maxReplyPayload from fits),
        writeFrame_slots (small_of_fits fits)]
      rfl
    rw [wrote, readReply_reads.read_take fits]
    simp only [decide_eq_true_eq, fits, and_true]
  · rw [writeReply_of_not_fits fits, if_neg (by simp)]
    exact readReply_reads.ends

end Streams

/-- A request is read back exactly when its fields are in their grammar and a reply exactly when it
is within its bound, and nothing else is ever read: not from a sink that failed midway, not from a
stream of several frames, and not in the other direction. -/
theorem channel_round_trip :
    ((∀ request : Request, (readRequest (writeRequest ([] : List UInt8) request).2).1 =
        if request.InGrammar then some request else none) ∧
      (∀ (request : Request) (room : Nat),
        (readRequest (writeRequest (Slots.mk [] room) request).2.written).1 =
          if (writeRequest (Slots.mk [] room) request).1 = true ∧ request.InGrammar then
            some request
          else none) ∧
      ∀ (stream : List UInt8) (request : Request) (rest : List UInt8),
        readRequest stream = (some request, rest) ↔
          request.InGrammar ∧ stream = (writeRequest ([] : List UInt8) request).2 ++ rest) ∧
    ((∀ reply : Reply, (readReply (writeReply ([] : List UInt8) reply).2).1 =
        if (encodeReply reply).2.length ≤ maxReplyPayload then some reply else none) ∧
      (∀ (reply : Reply) (room : Nat),
        (readReply (writeReply (Slots.mk [] room) reply).2.written).1 =
          if (writeReply (Slots.mk [] room) reply).1 = true then some reply else none) ∧
      ∀ (stream : List UInt8) (reply : Reply) (rest : List UInt8),
        readReply stream = (some reply, rest) ↔ (encodeReply reply).2.length ≤ maxReplyPayload ∧
          stream = (writeReply ([] : List UInt8) reply).2 ++ rest) ∧
    ((∀ requests : List Request, (∀ request ∈ requests, request.InGrammar) →
        readAll readRequest (requests.length + 1) (wireOfRequests requests) = requests) ∧
      (∀ requests : List Request,
        readAll readRequest (requests.length + 1) (wireOfRequests requests) =
          (requests.filter fun request => (writeRequest ([] : List UInt8) request).1).takeWhile
            fun request => decide request.InGrammar) ∧
      ∀ replies : List Reply, readAll readReply (replies.length + 1) (wireOfReplies replies) =
        replies.filter fun reply => (writeReply ([] : List UInt8) reply).1) ∧
    ∀ stream : List UInt8, (readRequest stream).1 = none ∨ (readReply stream).1 = none := by
  refine ⟨⟨readRequest_writeRequest, readRequest_slots, ?_⟩,
    ⟨readReply_writeReply, readReply_slots, ?_⟩,
    ⟨fun _ good => readAll_of_inGrammar good, readAll_wireOfRequests, readAll_wireOfReplies⟩,
    readRequest_or_readReply_none⟩
  · intro stream request rest
    rw [readRequest_eq_some_iff]
    refine and_congr_right fun good => ?_
    rw [writeRequest_of_sendable (sendable_of_inGrammar good), List.nil_append]
  · intro stream reply rest
    rw [readReply_eq_some_iff]
    refine and_congr_right fun fits => ?_
    rw [writeReply_of_fits fits, List.nil_append]

/-- A line of chat and a narrowing are read off one stream. -/
theorem two_requests_are_read :
    readAll readRequest 3 (wireOfRequests
        [.sendChat "peer-1a2b" "привет", .lowerGrant "peer-1a2b" "clipboard_read"]) =
      [.sendChat "peer-1a2b" "привет", .lowerGrant "peer-1a2b" "clipboard_read"] :=
  channel_round_trip.2.2.1.1
    [.sendChat "peer-1a2b" "привет", .lowerGrant "peer-1a2b" "clipboard_read"] (by decide)

end Lumepeer.Service
