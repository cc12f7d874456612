import Lumepeer.Media.Record.Proofs.Container

/-!
# Whole recordings

What a sequence of writer calls leaves in the file, and what a reader makes of
the file or of any prefix of it. A call that fails leaves neither bytes nor a
base time behind. The file is read back as it was written unless an event
without text was put into it, and every prefix of it is read up to the last
record that is whole.
-/

namespace Lumepeer.Media
open Lumepeer.Lib Lumepeer.Core

/-- One call of a recording writer. -/
inductive RecordCall where
  | video (timestampUs : UInt64) (bitstream : List UInt8)
  | audio (timestampUs : UInt64) (packet : List UInt8)
  | event (timestampUs : UInt64) (jsonLine : String)
  deriving DecidableEq

/-- The record a call is about, at its own time. -/
def RecordCall.record : RecordCall → Record
  | .video t data => .video t data
  | .audio t data => .audio t data
  | .event t line => .event t line

/-- The records with their times counted from the first of them. -/
def stamped : List Record → List Record
  | [] => []
  | first :: rest => (first :: rest).map (Record.relativeTo first.tUs)

namespace RecordingWriter

/-- Runs one call. -/
def write (writer : RecordingWriter (List UInt8)) :
    RecordCall → Except RecordingError Unit × RecordingWriter (List UInt8)
  | .video t data => writer.writeVideo t data
  | .audio t data => writer.writeAudio t data
  | .event t line => writer.writeEvent t line

/-- A writer that has written the header. -/
def fresh : RecordingWriter (List UInt8) := { inner := header, started := false, baseUs := none }

/-- The events of a recording. -/
abbrev events (calls : List RecordCall) :
    List (Event (RecordingWriter (List UInt8)) RecordCall (Except RecordingError Unit)) :=
  history write fresh calls

/-- The bytes of a recording. -/
def recorded (calls : List RecordCall) : List UInt8 := (exec write fresh calls).inner

/-- The records of the calls that returned `Ok`. -/
def written (events : List (Event (RecordingWriter (List UInt8)) RecordCall
    (Except RecordingError Unit))) : List Record :=
  events.filterMap fun event =>
    match event.out with
    | .ok () => some event.op.record
    | .error _ => none

variable {writer : RecordingWriter (List UInt8)}

theorem writeRecord_of_fits (writer : RecordingWriter (List UInt8)) {kind : UInt8} (t : UInt64)
    {payload : List UInt8} (fits : payload.length ≤ maxPayloadFor kind) :
    writer.writeRecord kind t payload =
      (.ok (),
        { writer with
          inner := writer.inner ++ ([kind, 0, 0, 0]
            ++ (toBeBytes64 (saturatingSub64 t (writer.baseUs.getD t))
              ++ toBeBytes32 (UInt32.ofNat payload.length)) ++ payload)
          baseUs := some (writer.baseUs.getD t) }) := by
  have narrow : payload.length < 2 ^ 32 := fits.trans_lt (Record.maxPayloadFor_lt kind)
  rw [writeRecord, if_neg (Nat.not_lt.mpr fits)]
  simp only [if_pos narrow, writeSlices, Write.writeAll, List.append_assoc]

theorem writeRecord_of_not_fits (writer : RecordingWriter (List UInt8)) {kind : UInt8} (t : UInt64)
    {payload : List UInt8} (large : ¬ payload.length ≤ maxPayloadFor kind) :
    writer.writeRecord kind t payload = (.error (.tooLarge kind), writer) := by
  rw [writeRecord, if_pos (Nat.not_le.mp large)]

theorem eq_empty_of_asBytes {line : String} (empty : asBytes line = []) : line = "" := by
  have same : some line = some "" := by
    rw [← fromUtf8_asBytes line, ← fromUtf8_asBytes "", empty]
    rfl
  exact Option.some.inj same

/-- The call fails and leaves the bytes and the base time as they are. -/
def Fails (writer : RecordingWriter (List UInt8)) (call : RecordCall) : Prop :=
  ∃ e, (writer.write call).1 = .error e ∧ (writer.write call).2.inner = writer.inner ∧
    (writer.write call).2.baseUs = writer.baseUs

/-- The call appends its record and fixes the base time if there was none. -/
def Appends (writer : RecordingWriter (List UInt8)) (call : RecordCall) : Prop :=
  (writer.write call).1 = .ok () ∧
    (writer.write call).2.inner = writer.inner ++
      (call.record.relativeTo (writer.baseUs.getD call.record.tUs)).bytes ∧
    (writer.write call).2.baseUs = some (writer.baseUs.getD call.record.tUs)

/-- A call that comes down to `write_record` fails on its length or appends. -/
theorem cases_of_writeRecord {call : RecordCall}
    (accepted : call.record.Fits → writer.write call =
      writeRecord { writer with started := true } call.record.kind call.record.tUs
        call.record.payload)
    (refused : ¬ call.record.Fits →
      ∃ e, writer.write call = (.error e, { writer with started := true })) :
    Fails writer call ∧ ¬ call.record.Fits ∨ Appends writer call ∧ call.record.Fits := by
  by_cases fits : call.record.Fits
  · have appended := accepted fits
    rw [writeRecord_of_fits _ _ fits] at appended
    refine .inr ⟨⟨?_, ?_, ?_⟩, fits⟩
    · rw [appended]
    · rw [appended, Record.bytes, Record.preamble, Record.payload_relativeTo,
        Record.kind_relativeTo, Record.tUs_relativeTo]
    · rw [appended]
  · obtain ⟨e, failed⟩ := refused fits
    refine .inl ⟨⟨e, ?_, ?_, ?_⟩, fits⟩
    · rw [failed]
    · rw [failed]
    · rw [failed]

/-- A video or audio call: it refuses an empty payload and else comes down to `write_record`. -/
theorem media_cases (call : RecordCall)
    (refusesEmpty : call.record.payload = [] → Fails writer call)
    (comesDown : call.record.payload ≠ [] → writer.write call =
      writeRecord { writer with started := true } call.record.kind call.record.tUs
        call.record.payload) :
    Fails writer call ∨ Appends writer call ∧ call.record.Fits ∧ call.record.payload ≠ [] := by
  by_cases empty : call.record.payload = []
  · exact .inl (refusesEmpty empty)
  have call_eq := comesDown empty
  rcases cases_of_writeRecord (fun _ => call_eq)
    (fun large => ⟨_, call_eq.trans (writeRecord_of_not_fits _ _ large)⟩) with
    ⟨fails, -⟩ | ⟨appends, fits⟩
  · exact .inl fails
  · exact .inr ⟨appends, fits, empty⟩

/-- An event call: it has no check of its own but the length. -/
theorem event_cases (writer : RecordingWriter (List UInt8)) (t : UInt64) (line : String) :
    Fails writer (.event t line) ∧ ¬ (RecordCall.event t line).record.Fits ∨
      Appends writer (.event t line) ∧ (RecordCall.event t line).record.Fits := by
  apply cases_of_writeRecord
  · intro fits
    have answer := writeRecord_of_fits { writer with started := true } t fits
    show writeEvent writer t line = _
    simp only [writeEvent, Record.kind, RecordCall.record, Record.payload, Record.tUs] at answer ⊢
    rw [answer]
  · intro large
    have answer := writeRecord_of_not_fits { writer with started := true } t large
    refine ⟨.corrupt "event line over the limit", ?_⟩
    show writeEvent writer t line = _
    simp only [writeEvent, Record.kind, RecordCall.record, Record.payload] at answer ⊢
    rw [answer]
    rfl

/-- What a call does; only an event may append an empty payload, and then its text is empty. -/
theorem write_cases (writer : RecordingWriter (List UInt8)) (call : RecordCall) :
    (Fails writer call ∧ ∀ t, call ≠ .event t "") ∨
      Appends writer call ∧ call.record.Fits ∧
        (call.record.payload = [] ↔ ∃ t, call = .event t "") := by
  cases call with
  | video t data =>
      have refusesEmpty : data = [] → Fails writer (.video t data) := by
        rintro rfl
        exact ⟨_, rfl, rfl, rfl⟩
      have comesDown : data ≠ [] → writer.write (.video t data) =
          writeRecord { writer with started := true } kindVideo t data :=
        fun solid => if_neg (by simpa using solid)
      rcases media_cases (.video t data) refusesEmpty comesDown with fails | ⟨appends, fits, solid⟩
      · exact .inl ⟨fails, nofun⟩
      · exact .inr ⟨appends, fits, fun isEmpty => absurd isEmpty solid, nofun⟩
  | audio t data =>
      have refusesEmpty : data = [] → Fails writer (.audio t data) := by
        rintro rfl
        exact ⟨_, rfl, rfl, rfl⟩
      have comesDown : data ≠ [] → writer.write (.audio t data) =
          writeRecord { writer with started := true } kindAudio t data :=
        fun solid => if_neg (by simpa using solid)
      rcases media_cases (.audio t data) refusesEmpty comesDown with fails | ⟨appends, fits, solid⟩
      · exact .inl ⟨fails, nofun⟩
      · exact .inr ⟨appends, fits, fun isEmpty => absurd isEmpty solid, nofun⟩
  | event t line =>
      rcases event_cases writer t line with ⟨fails, large⟩ | ⟨appends, fits⟩
      · refine .inl ⟨fails, ?_⟩
        rintro _ ⟨⟩
        exact large (Nat.zero_le _)
      · refine .inr ⟨appends, fits, ?_, ?_⟩
        · intro isEmpty
          exact ⟨t, by rw [eq_empty_of_asBytes isEmpty]⟩
        · rintro ⟨t', ⟨⟩⟩
          rfl

/-- The records of a run that continues from the base time `base`, if there is one. -/
def stampedFrom (base : Option UInt64) : List Record → List Record
  | [] => []
  | first :: rest => (first :: rest).map (Record.relativeTo (base.getD first.tUs))

theorem stampedFrom_cons (base : Option UInt64) (record : Record) (records : List Record) :
    stampedFrom base (record :: records) =
      record.relativeTo (base.getD record.tUs) ::
        stampedFrom (some (base.getD record.tUs)) records := by
  cases records <;> rfl

theorem stampedFrom_none (records : List Record) : stampedFrom none records = stamped records := by
  cases records <;> rfl

theorem written_of_fails {call : RecordCall} (fails : Fails writer call) (calls : List RecordCall) :
    written (history write writer (call :: calls)) =
      written (history write (writer.write call).2 calls) := by
  obtain ⟨e, failed, -⟩ := fails
  simp only [written, history_cons, List.filterMap_cons, Event.of_out, failed]

theorem written_of_appends {call : RecordCall} (appends : Appends writer call)
    (calls : List RecordCall) :
    written (history write writer (call :: calls)) =
      call.record :: written (history write (writer.write call).2 calls) := by
  simp only [written, history_cons, List.filterMap_cons, Event.of_out, Event.of_op, appends.1]

/-- A run appends the records of its successful calls, in order. -/
theorem inner_of_run (writer : RecordingWriter (List UInt8)) (calls : List RecordCall) :
    (exec write writer calls).inner = writer.inner ++
      (stampedFrom writer.baseUs (written (history write writer calls))).flatMap Record.bytes := by
  induction calls generalizing writer with
  | nil => simp [written, stampedFrom]
  | cons call calls ih =>
      rw [exec_cons, ih]
      rcases write_cases writer call with ⟨fails, -⟩ | ⟨appends, -⟩
      · rw [written_of_fails fails]
        obtain ⟨e, -, sameInner, sameBase⟩ := fails
        rw [sameInner, sameBase]
      · rw [written_of_appends appends]
        obtain ⟨-, appended, based⟩ := appends
        rw [appended, based, stampedFrom_cons, List.flatMap_cons, List.append_assoc]

/-- The records of successful calls fit; one of them is empty exactly if an event without text was
recorded. -/
theorem written_spec (writer : RecordingWriter (List UInt8)) (calls : List RecordCall) :
    (∀ record ∈ written (history write writer calls), record.Fits) ∧
      ((∃ record ∈ written (history write writer calls), record.payload = []) ↔
        ∃ t, RecordCall.event t "" ∈ calls) := by
  induction calls generalizing writer with
  | nil => simp [written]
  | cons call calls ih =>
      obtain ⟨allFit, someEmpty⟩ := ih (writer.write call).2
      rcases write_cases writer call with ⟨fails, notEmptyEvent⟩ | ⟨appends, fits, emptyIff⟩
      · rw [written_of_fails fails]
        refine ⟨allFit, someEmpty.trans ?_⟩
        simp only [List.mem_cons]
        exact exists_congr fun t =>
          ⟨.inr, fun either => either.resolve_left (Ne.symm (notEmptyEvent t))⟩
      · rw [written_of_appends appends]
        refine ⟨List.forall_mem_cons.mpr ⟨fits, allFit⟩, ?_⟩
        simp only [List.mem_cons, exists_eq_or_imp]
        rw [someEmpty, emptyIff, ← exists_or]
        simp only [eq_comm]

end RecordingWriter

/-- What a reader reports of a container with these records. -/
def infoOf (records : List Record) : ContainerInfo :=
  { hasAudio := records.any Record.isAudio, version := recordFormatVersion }

section Stamped
variable {records : List Record}

theorem mem_stamped {record' : Record} :
    record' ∈ stamped records ↔
      ∃ first rest, records = first :: rest ∧ ∃ record ∈ records, record.relativeTo first.tUs = record' := by
  cases records with
  | nil => simp [stamped]
  | cons first rest => simp [stamped, eq_comm]

@[simp] theorem length_stamped (records : List Record) : (stamped records).length = records.length := by
  cases records <;> simp [stamped]

theorem isAudio_relativeTo (base : UInt64) (record : Record) :
    (record.relativeTo base).isAudio = record.isAudio := by
  cases record <;> rfl

theorem infoOf_stamped (records : List Record) : infoOf (stamped records) = infoOf records := by
  cases records with
  | nil => rfl
  | cons first rest =>
      have same : Record.isAudio ∘ Record.relativeTo first.tUs = Record.isAudio :=
        funext fun record => isAudio_relativeTo first.tUs record
      rw [infoOf, stamped, List.any_map, same]
      rfl

theorem fits_of_mem_stamped (fit : ∀ record ∈ records, record.Fits) :
    ∀ record ∈ stamped records, record.Fits := by
  intro record' member
  obtain ⟨first, -, -, record, original, rfl⟩ := mem_stamped.mp member
  rw [Record.Fits, Record.payload_relativeTo, Record.kind_relativeTo]
  exact fit record original

theorem exists_empty_stamped_iff :
    (∃ record ∈ stamped records, record.payload = []) ↔ ∃ record ∈ records, record.payload = [] := by
  constructor
  · rintro ⟨record', member, empty⟩
    obtain ⟨first, -, -, record, original, rfl⟩ := mem_stamped.mp member
    exact ⟨record, original, by rwa [Record.payload_relativeTo] at empty⟩
  · rintro ⟨record, member, empty⟩
    obtain ⟨first, rest, isRecords⟩ := List.exists_cons_of_ne_nil (List.ne_nil_of_mem member)
    refine ⟨record.relativeTo first.tUs, mem_stamped.mpr ⟨first, rest, isRecords, record, member, rfl⟩, ?_⟩
    rwa [Record.payload_relativeTo]

end Stamped

open RecordingWriter RecordReader

theorem recorded_eq (calls : List RecordCall) :
    recorded calls = header ++ (stamped (written (events calls))).flatMap Record.bytes := by
  rw [recorded, inner_of_run, ← stampedFrom_none]
  rfl

/-- The file, cut anywhere after its header, holds the records before the cut. -/
theorem readRecording_take {records : List Record} (fit : ∀ record ∈ records, record.Fits)
    (solid : ¬ ∃ record ∈ records, record.payload = []) (cut : Nat) {calls : Nat}
    (enough : (wholeBefore cut records).length < calls) :
    readRecording calls (header ++ (records.flatMap Record.bytes).take cut) =
      some (.ok (infoOf (wholeBefore cut records), wholeBefore cut records)) := by
  have read := readRecords_take
    { inner := (records.flatMap Record.bytes).take cut, version := recordFormatVersion,
      ended := false }
    rfl fit (fun record member empty => solid ⟨record, member, empty⟩) rfl enough
  rw [readRecording, new_header]
  simp only [read, infoOf]

/-- The round trip of a sequence of calls: their bytes are read back as the records of the calls that
returned `Ok`, and a call that failed left nothing. -/
def RoundTrips (calls : List RecordCall) : Prop :=
  (∀ budget, (written (events calls)).length < budget →
    readRecording budget (recorded calls) =
      some (.ok (infoOf (written (events calls)), stamped (written (events calls))))) ∧
  ∀ event ∈ events calls, event.out ≠ .ok () →
    event.post.inner = event.pre.inner ∧ event.post.baseUs = event.pre.baseUs

/-- A recording is read back as it was written exactly if no event without text was recorded. -/
theorem recording_round_trips_iff (calls : List RecordCall) :
    RoundTrips calls ↔ ∀ t, RecordCall.event t "" ∉ calls := by
  obtain ⟨fit, emptyIff⟩ := written_spec fresh calls
  have fit' := fits_of_mem_stamped fit
  constructor
  · rintro ⟨reads, -⟩ t recordedEmpty
    have empty := exists_empty_stamped_iff.mpr (emptyIff.mpr ⟨t, recordedEmpty⟩)
    have read := reads _ (Nat.lt_succ_self _)
    rw [recorded_eq, readRecording, new_header] at read
    have never := readRecords_of_empty
      { inner := (stamped (written (events calls))).flatMap Record.bytes,
        version := recordFormatVersion, ended := false }
      rfl fit' empty rfl (written (events calls)).length.succ
    simp only at read
    split at read
    · cases read
    · cases read
    · rename_i records isRead
      exact never records isRead
  · intro solid
    refine ⟨?_, ?_⟩
    · intro budget enough
      have noneEmpty : ¬ ∃ record ∈ stamped (written (events calls)), record.payload = [] := by
        rw [exists_empty_stamped_iff, emptyIff]
        exact fun ⟨t, member⟩ => solid t member
      have whole : wholeBefore ((stamped (written (events calls))).flatMap Record.bytes).length
          (stamped (written (events calls))) = stamped (written (events calls)) :=
        wholeBefore_eq_self (Nat.le_refl _)
      have enough' := enough
      rw [← length_stamped, ← whole] at enough'
      have read := readRecording_take fit' noneEmpty _ enough'
      rw [recorded_eq]
      rw [List.take_length, whole, infoOf_stamped] at read
      exact read
    · intro event member failed
      rw [eq_of_mem_history member] at failed ⊢
      rcases write_cases event.pre event.op with ⟨⟨e, -, sameInner, sameBase⟩, -⟩ | ⟨appends, -⟩
      · exact ⟨sameInner, sameBase⟩
      · exact absurd appends.1 failed

/-- One event without text: the call returns `Ok`, and the reader calls the file corrupt. -/
theorem empty_event_is_not_read :
    (events [.event 0 ""]).map (fun event => event.out) = [.ok ()] ∧
      readRecording 2 (recorded [.event 0 ""]) =
        some (.error (.corrupt "record length out of bounds")) ∧
      ¬ RoundTrips [.event 0 ""] := by
  have refused : readRecording 2 (recorded [.event 0 ""]) =
      some (.error (.corrupt "record length out of bounds")) := by decide
  refine ⟨by decide, refused, fun ⟨reads, _⟩ => ?_⟩
  have read := reads 2 (by decide)
  rw [refused] at read
  cases read

/-- Where record `i` ends in the file. -/
def recordEnd (records : List Record) (i : Nat) : Nat :=
  headerBytes + ((records.take (i + 1)).flatMap Record.bytes).length

/-- The records before a cut are an initial part, and just those that end before it. -/
theorem wholeBefore_eq_take (cut : Nat) (records : List Record) :
    ∃ k, k ≤ records.length ∧ wholeBefore cut records = records.take k ∧
      ∀ i, i < records.length →
        (i < k ↔ ((records.take (i + 1)).flatMap Record.bytes).length ≤ cut) := by
  induction records generalizing cut with
  | nil => exact ⟨0, Nat.le_refl _, rfl, nofun⟩
  | cons record records ih =>
      by_cases whole : record.bytes.length ≤ cut
      · obtain ⟨k, most, isTake, ends⟩ := ih (cut - record.bytes.length)
        refine ⟨k + 1, Nat.succ_le_succ most, ?_, ?_⟩
        · rw [wholeBefore, if_pos whole, isTake, List.take_succ_cons]
        · intro i below
          rw [List.take_succ_cons, List.flatMap_cons, List.length_append]
          cases i with
          | zero => simp [whole]
          | succ i =>
              rw [Nat.succ_lt_succ_iff, ends i (Nat.lt_of_succ_lt_succ below)]
              omega
      · refine ⟨0, Nat.zero_le _, by rw [wholeBefore, if_neg whole]; rfl, ?_⟩
        intro i _
        rw [List.take_succ_cons, List.flatMap_cons, List.length_append]
        omega

/-- A recording cut anywhere is read: in the header it is no recording, and after the header it is the
records that end before the cut. -/
theorem cut_recording_is_read {calls : List RecordCall} (solid : ∀ t, RecordCall.event t "" ∉ calls)
    (cut : Nat) :
    let records := stamped (written (events calls))
    (cut < headerBytes → ∀ budget,
      readRecording budget ((recorded calls).take cut) = some (.error .badHeader)) ∧
    (headerBytes ≤ cut → ∃ k, k ≤ records.length ∧
      (∀ i, i < records.length → (i < k ↔ recordEnd records i ≤ cut)) ∧
      ∀ budget, k < budget →
        readRecording budget ((recorded calls).take cut) =
          some (.ok (infoOf (records.take k), records.take k))) := by
  intro records
  obtain ⟨fit, emptyIff⟩ := written_spec fresh calls
  have noneEmpty : ¬ ∃ record ∈ records, record.payload = [] := by
    rw [exists_empty_stamped_iff, emptyIff]
    exact fun ⟨t, member⟩ => solid t member
  have file : recorded calls = header ++ records.flatMap Record.bytes := recorded_eq calls
  constructor
  · intro early budget
    have short : ((recorded calls).take cut).length < headerBytes := by
      rw [List.length_take]
      exact (Nat.min_le_left _ _).trans_lt early
    rw [readRecording, new_short short]
  · intro late
    obtain ⟨k, most, isTake, ends⟩ := wholeBefore_eq_take (cut - headerBytes) records
    refine ⟨k, most, ?_, ?_⟩
    · intro i below
      rw [ends i below, recordEnd]
      omega
    · intro budget enough
      have split : (recorded calls).take cut =
          header ++ (records.flatMap Record.bytes).take (cut - headerBytes) := by
        rw [file, List.take_append, List.take_of_length_le late]
        rfl
      have counted : (wholeBefore (cut - headerBytes) records).length < budget := by
        rw [isTake, List.length_take]
        exact (Nat.min_le_left _ _).trans_lt enough
      rw [split, readRecording_take (fits_of_mem_stamped fit) noneEmpty _ counted, isTake]

/-- Two audio packets, cut in the middle of the second. -/
theorem torn_second_packet_is_dropped :
    readRecording 2 ((recorded [.audio 5 [1, 2], .audio 7 [3, 4]]).take 30) =
      some (.ok ({ hasAudio := true, version := 1 }, [.audio 0 [1, 2]])) := by
  have solid : ∀ t, RecordCall.event t "" ∉ [.audio 5 [1, 2], .audio 7 [3, 4]] := by simp
  obtain ⟨k, -, ends, reads⟩ := (cut_recording_is_read solid 30).2 (by decide)
  have first : 0 < k := (ends 0 (by decide)).mpr (by decide)
  have second : ¬ 1 < k := mt (ends 1 (by decide)).mp (by decide)
  obtain rfl : k = 1 := by omega
  exact reads 2 (by decide)

end Lumepeer.Media
