import Lumepeer.Lib.Run
import Lumepeer.Media.Record

/-!
# The recording container, written and read

The bytes of a record are its preamble and its payload. A writer appends the
bytes of the calls it accepts, their times counted from the first of them; a
reader takes the bytes of one record off the front, whatever follows, and stops
without a complaint where they are cut short. The two disagree on one record
only: an event without text is written and not read.
-/

namespace Lumepeer.Media
open Lumepeer.Lib Lumepeer.Core

namespace Record

def tUs : Record → UInt64
  | .video t _ | .audio t _ | .event t _ => t

def kind : Record → UInt8
  | .video .. => kindVideo
  | .audio .. => kindAudio
  | .event .. => kindEvent

def payload : Record → List UInt8
  | .video _ data | .audio _ data => data
  | .event _ line => asBytes line

/-- The record with its time counted from `base`, 0 before it. -/
def relativeTo (base : UInt64) : Record → Record
  | .video t data => .video (saturatingSub64 t base) data
  | .audio t data => .audio (saturatingSub64 t base) data
  | .event t line => .event (saturatingSub64 t base) line

/-- The preamble of a record. -/
def preamble (record : Record) : List UInt8 :=
  [record.kind, 0, 0, 0] ++ (toBeBytes64 record.tUs ++
    toBeBytes32 (UInt32.ofNat record.payload.length))

/-- The bytes of a record. -/
def bytes (record : Record) : List UInt8 := record.preamble ++ record.payload

/-- The length of the payload is within the bounds the writer and the reader share. -/
def Fits (record : Record) : Prop := record.payload.length ≤ maxPayloadFor record.kind

variable {record : Record}

@[simp] theorem length_preamble (record : Record) : record.preamble.length = 16 := by
  simp [preamble]

theorem length_bytes (record : Record) : record.bytes.length = 16 + record.payload.length := by
  rw [bytes, List.length_append, length_preamble]

@[simp] theorem payload_relativeTo (base : UInt64) (record : Record) :
    (record.relativeTo base).payload = record.payload := by
  cases record <;> rfl

@[simp] theorem kind_relativeTo (base : UInt64) (record : Record) :
    (record.relativeTo base).kind = record.kind := by
  cases record <;> rfl

@[simp] theorem tUs_relativeTo (base : UInt64) (record : Record) :
    (record.relativeTo base).tUs = saturatingSub64 record.tUs base := by
  cases record <;> rfl

theorem maxPayloadFor_lt (kind : UInt8) : maxPayloadFor kind < 2 ^ 32 := by
  unfold maxPayloadFor
  split <;> decide

end Record

namespace RecordReader
open Record

variable {record : Record} {reader : RecordReader (List UInt8)}

theorem readExact_append {n : Nat} (first : Bytes n) (rest : List UInt8) :
    Read.readExact (first.toList ++ rest) n = (.ok first, rest) := by
  simp only [Read.readExact, splitBytes_append]

/-- A whole preamble: its fields decide how the payload is read. -/
theorem nextRecord_of_preamble (live : reader.ended = false) (fits : record.Fits)
    {rest : List UInt8} (inner : reader.inner = record.preamble ++ rest) :
    reader.nextRecord = readPayload { reader with inner := rest } record.kind record.tUs
      record.payload.length := by
  have read : Read.readExact (record.preamble ++ rest) recordPreambleBytes =
      (.ok ⟨record.preamble, length_preamble record⟩, rest) :=
    readExact_append ⟨record.preamble, length_preamble record⟩ rest
  have time : (record.preamble.drop 4).take 8 = toBeBytes64 record.tUs := by
    show (toBeBytes64 record.tUs ++ _).take 8 = _
    exact List.take_left' (length_toBeBytes64 _)
  have length : (record.preamble.drop 12).take 4 =
      toBeBytes32 (UInt32.ofNat record.payload.length) := by
    have skipped : record.preamble.drop 12 = toBeBytes32 (UInt32.ofNat record.payload.length) := by
      rw [preamble, ← List.append_assoc]
      exact List.drop_left' (by simp)
    rw [skipped, List.take_of_length_le (by simp)]
  have counted : (UInt32.ofNat record.payload.length).toNat = record.payload.length :=
    UInt32.toNat_ofNat_of_lt' (fits.trans_lt (maxPayloadFor_lt _))
  rw [nextRecord, live, inner, read]
  simp only [Bool.false_eq_true, if_false, List.Vector.toList, time, length,
    fromBeBytes64_toBeBytes64, fromBeBytes32_toBeBytes32, counted]
  rfl

/-- The three kinds a record has are the ones the reader knows. -/
theorem known_kind (record : Record) :
    ¬ (record.kind ≠ kindVideo ∧ record.kind ≠ kindAudio ∧ record.kind ≠ kindEvent) := by
  cases record <;> simp [kind]

/-- A whole record is read and taken off the front. -/
theorem nextRecord_bytes (live : reader.ended = false) (fits : record.Fits)
    (solid : record.payload ≠ []) {rest : List UInt8} (inner : reader.inner = record.bytes ++ rest) :
    reader.nextRecord = (.ok (some record), { reader with inner := rest }) := by
  have sized : ¬ (record.payload.length = 0 ∨ record.payload.length > maxPayloadFor record.kind) := by
    rw [not_or, List.length_eq_zero_iff]
    exact ⟨solid, Nat.not_lt.mpr fits⟩
  have read : Read.readExact (record.payload ++ rest) record.payload.length =
      (.ok ⟨record.payload, rfl⟩, rest) := readExact_append ⟨record.payload, rfl⟩ rest
  rw [bytes, List.append_assoc] at inner
  rw [nextRecord_of_preamble live fits inner, readPayload, if_neg (known_kind record), if_neg sized]
  simp only [read]
  cases record with
  | video t data => rfl
  | audio t data => rfl
  | event t line =>
      have text : fromUtf8 (asBytes line) = some line := fromUtf8_asBytes line
      simp only [kind, payload, List.Vector.toList, text]
      rfl

/-- An event without text is written with a length the reader refuses. -/
theorem nextRecord_of_empty (live : reader.ended = false) (empty : record.payload = [])
    {rest : List UInt8} (inner : reader.inner = record.bytes ++ rest) :
    ∃ next, reader.nextRecord = (.error (.corrupt "record length out of bounds"), next) := by
  have fits : record.Fits := by
    rw [Fits, empty]
    exact Nat.zero_le _
  have sized : record.payload.length = 0 ∨ record.payload.length > maxPayloadFor record.kind :=
    .inl (by rw [empty]; rfl)
  rw [bytes, List.append_assoc] at inner
  rw [nextRecord_of_preamble live fits inner, readPayload, if_neg (known_kind record), if_pos sized]
  exact ⟨_, rfl⟩

/-- A source too short for what is read next reports the end of the file. -/
theorem readExact_short {n : Nat} {bytes : List UInt8} (short : bytes.length < n) :
    Read.readExact bytes n =
      (.error { unexpectedEof := true, message := "failed to fill whole buffer" }, []) := by
  simp only [Read.readExact, splitBytes_eq_none short]

/-- A record cut short ends the stream: in its preamble, or in its payload. -/
theorem nextRecord_torn (live : reader.ended = false) (fits : record.Fits) {cut : Nat}
    (torn : cut < record.bytes.length) (inner : reader.inner = record.bytes.take cut) :
    ∃ next, reader.nextRecord = (.ok none, next) := by
  rw [length_bytes] at torn
  by_cases early : cut < 16
  · have short : (record.bytes.take cut).length < recordPreambleBytes := by
      rw [List.length_take, length_bytes]
      exact (Nat.min_le_left _ _).trans_lt early
    rw [nextRecord, live, inner, readExact_short short]
    exact ⟨_, rfl⟩
  · have split : record.bytes.take cut = record.preamble ++ record.payload.take (cut - 16) := by
      rw [bytes, List.take_append, length_preamble,
        List.take_of_length_le (by rw [length_preamble]; omega)]
    have short : (record.payload.take (cut - 16)).length < record.payload.length := by
      rw [List.length_take]
      omega
    have sized :
        ¬ (record.payload.length = 0 ∨ record.payload.length > maxPayloadFor record.kind) := by
      have bound : record.payload.length ≤ maxPayloadFor record.kind := fits
      omega
    rw [split] at inner
    rw [nextRecord_of_preamble live fits inner, readPayload, if_neg (known_kind record),
      if_neg sized]
    simp only [readExact_short short]
    exact ⟨_, rfl⟩

theorem nextRecord_nil (live : reader.ended = false) (inner : reader.inner = []) :
    ∃ next, reader.nextRecord = (.ok none, next) := by
  rw [nextRecord, live, inner, readExact_short (by decide)]
  exact ⟨_, rfl⟩

/-- The records that lie wholly within the first `cut` bytes. -/
def wholeBefore : Nat → List Record → List Record
  | _, [] => []
  | cut, record :: records =>
      if record.bytes.length ≤ cut then
        record :: wholeBefore (cut - record.bytes.length) records
      else []

/-- Records cut anywhere: those before the cut are read, and the rest is the end of the stream. -/
theorem readRecords_take (reader : RecordReader (List UInt8)) {records : List Record} {cut : Nat}
    (live : reader.ended = false) (fit : ∀ record ∈ records, record.Fits)
    (solid : ∀ record ∈ records, record.payload ≠ [])
    (inner : reader.inner = (records.flatMap Record.bytes).take cut) {calls : Nat}
    (enough : (wholeBefore cut records).length < calls) :
    reader.readRecords calls = some (.ok (wholeBefore cut records)) := by
  obtain ⟨fewer, rfl⟩ : ∃ fewer, calls = fewer + 1 := ⟨calls - 1, by omega⟩
  induction records generalizing reader cut fewer with
  | nil =>
      obtain ⟨next, ended⟩ := nextRecord_nil live (by simpa using inner)
      rw [readRecords, ended]
      rfl
  | cons record records ih =>
      have fits := fit record List.mem_cons_self
      rw [List.flatMap_cons, List.take_append] at inner
      by_cases whole : record.bytes.length ≤ cut
      · rw [List.take_of_length_le whole] at inner
        rw [wholeBefore, if_pos whole, List.length_cons] at enough
        obtain ⟨evenFewer, rfl⟩ : ∃ evenFewer, fewer = evenFewer + 1 := ⟨fewer - 1, by omega⟩
        have step := nextRecord_bytes live fits (solid record List.mem_cons_self) inner
        have rest := ih
          { reader with inner := (records.flatMap Record.bytes).take (cut - record.bytes.length) }
          live (fun later member => fit later (List.mem_cons_of_mem _ member))
          (fun later member => solid later (List.mem_cons_of_mem _ member)) rfl evenFewer (by omega)
        rw [readRecords, step, wholeBefore, if_pos whole]
        simp only [rest]
      · have nothingAfter : cut - record.bytes.length = 0 := by omega
        rw [nothingAfter, List.take_zero, List.append_nil] at inner
        obtain ⟨next, ended⟩ := nextRecord_torn live fits (Nat.not_le.mp whole) inner
        rw [readRecords, ended, wholeBefore, if_neg whole]

theorem wholeBefore_eq_self {records : List Record} {cut : Nat}
    (whole : (records.flatMap Record.bytes).length ≤ cut) : wholeBefore cut records = records := by
  induction records generalizing cut with
  | nil => rfl
  | cons record records ih =>
      rw [List.flatMap_cons, List.length_append] at whole
      rw [wholeBefore, if_pos (by omega), ih (by omega)]

/-- Where a record without a payload was written, no number of calls reads the recording. -/
theorem readRecords_of_empty (reader : RecordReader (List UInt8)) {records : List Record}
    (live : reader.ended = false) (fit : ∀ record ∈ records, record.Fits)
    (empty : ∃ record ∈ records, record.payload = [])
    (inner : reader.inner = records.flatMap Record.bytes) (calls : Nat) (read : List Record) :
    reader.readRecords calls ≠ some (.ok read) := by
  induction records generalizing reader calls read with
  | nil => simp at empty
  | cons record records ih =>
      cases calls with
      | zero => exact nofun
      | succ calls =>
          rw [List.flatMap_cons] at inner
          by_cases here : record.payload = []
          · obtain ⟨next, refused⟩ := nextRecord_of_empty live here inner
            rw [readRecords, refused]
            exact nofun
          · have step := nextRecord_bytes live (fit record List.mem_cons_self) here inner
            have later : ∃ record ∈ records, record.payload = [] := by
              obtain ⟨found, member, isEmpty⟩ := empty
              rcases List.mem_cons.mp member with rfl | inRest
              · exact absurd isEmpty here
              · exact ⟨found, inRest, isEmpty⟩
            have rest := ih { reader with inner := records.flatMap Record.bytes } live
              (fun other member => fit other (List.mem_cons_of_mem _ member)) later rfl calls
            rw [readRecords, step]
            simp only
            split
            · exact nofun
            · exact nofun
            · rename_i readRest isRest
              exact absurd isRest (rest readRest)

/-- How a successful read begins: at the end of the stream, or with a record. -/
theorem readRecords_cases {R : Type} [Read R] {reader : RecordReader R} {calls : Nat}
    {records : List Record} (read : reader.readRecords (calls + 1) = some (.ok records)) :
    (∃ next, reader.nextRecord = (.ok none, next) ∧ records = []) ∨
      ∃ record rest next, reader.nextRecord = (.ok (some record), next) ∧
        next.readRecords calls = some (.ok rest) ∧ records = record :: rest := by
  rw [readRecords] at read
  split at read
  · cases read
  · rename_i next ended
    cases read
    exact .inl ⟨next, ended, rfl⟩
  · rename_i record next returned
    split at read
    · cases read
    · cases read
    · rename_i rest readRest
      cases read
      exact .inr ⟨record, rest, next, returned, readRest, rfl⟩

theorem new_header (body : List UInt8) :
    new (RecordingWriter.header ++ body) =
      .ok { inner := body, version := recordFormatVersion, ended := false } := by
  have read : Read.readExact (RecordingWriter.header ++ body) headerBytes =
      (.ok ⟨RecordingWriter.header, by decide⟩, body) :=
    readExact_append ⟨RecordingWriter.header, by decide⟩ body
  rw [new, read]
  rfl

theorem new_short {bytes : List UInt8} (short : bytes.length < headerBytes) :
    new bytes = .error .badHeader := by
  rw [new, readExact_short short]
  rfl

end RecordReader

end Lumepeer.Media
