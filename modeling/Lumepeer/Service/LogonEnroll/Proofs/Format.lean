import Lumepeer.Service.LogonEnroll

/-!
# The format of entries and of requests

Entries are read in one way only, and written in that way. What is written is read back just where
no name stands twice; what is cut short is refused.
-/

namespace Lumepeer.Service.LogonEnroll
open Lumepeer.Lib

/-- What `encode_entries` checks of an entry. -/
structure Entry.InBounds (entry : Entry) : Prop where
  name : validName entry.1 = true
  value : entry.2.length ≤ maxValue

/-- The number of bytes that are written of an entry. -/
def Entry.size (entry : Entry) : Nat := 3 + (asBytes entry.1).length + entry.2.length

/-- What `encode_entries` checks. -/
structure InBounds (entries : List Entry) : Prop where
  few : entries.length ≤ maxEntries
  each : ∀ entry ∈ entries, entry.InBounds
  short : 1 + (entries.map Entry.size).sum ≤ maxPayload

theorem encodeEntry_of_parts {name : String} {value nameBytes : List UInt8}
    {nameLen high low : UInt8}
    (isName : fromUtf8 nameBytes = some name) (length : nameBytes.length = nameLen.toNat)
    (valid : validName name = true)
    (isLength : value.length = (fromBeBytes16 ⟨[high, low], rfl⟩).toNat)
    (bounded : value.length ≤ maxValue) :
    encodeEntry (name, value) = some (nameLen :: (nameBytes ++ [high, low] ++ value)) := by
  have isBytes := asBytes_of_fromUtf8 isName
  unfold encodeEntry
  rw [valid, Bool.not_true, if_neg Bool.false_ne_true, if_neg (Nat.not_lt.mpr bounded)]
  have same : toBeBytes16 (fromBeBytes16 ⟨[high, low], rfl⟩) = [high, low] :=
    toBeBytes16_fromBeBytes16 ⟨[high, low], rfl⟩
  simp only [isBytes, length, isLength, UInt8.ofNat_toNat, UInt16.ofNat_toNat, same]

theorem encodeEntry_eq_some_iff {entry : Entry} {bytes : List UInt8} :
    encodeEntry entry = some bytes ↔
      entry.InBounds ∧
        bytes = UInt8.ofNat (asBytes entry.1).length :: (asBytes entry.1 ++
          toBeBytes16 (UInt16.ofNat entry.2.length) ++ entry.2) := by
  unfold encodeEntry
  constructor
  · intro encoded
    split at encoded
    · cases encoded
    next valid =>
      split at encoded
      · cases encoded
      next bounded =>
        cases encoded
        exact ⟨⟨by simpa using valid, Nat.not_lt.mp bounded⟩, rfl⟩
  · rintro ⟨⟨valid, bounded⟩, rfl⟩
    rw [valid, Bool.not_true, if_neg Bool.false_ne_true, if_neg (Nat.not_lt.mpr bounded)]

theorem length_le_of_validName {name : String} (valid : validName name = true) :
    (asBytes name).length ≤ maxName := by
  unfold validName at valid
  simp only [Bool.and_eq_true, decide_eq_true_eq] at valid
  exact valid.1.1.1

theorem Entry.InBounds.toNat_nameLen {entry : Entry} (bounds : entry.InBounds) :
    (UInt8.ofNat (asBytes entry.1).length).toNat = (asBytes entry.1).length := by
  have short := length_le_of_validName bounds.name
  unfold maxName at short
  exact UInt8.toNat_ofNat_of_lt' (show _ < 256 by omega)

theorem Entry.InBounds.toNat_valueLen {entry : Entry} (bounds : entry.InBounds) :
    (UInt16.ofNat entry.2.length).toNat = entry.2.length := by
  have short := bounds.value
  unfold maxValue at short
  exact UInt16.toNat_ofNat_of_lt' (show _ < 65536 by omega)

/-- What one turn of the loop does with the bytes of an entry of a new name. -/
theorem decodeAll_append_entry {seen : List Entry} {entry : Entry} {first : List UInt8}
    (encoded : encodeEntry entry = some first) (isNew : ∀ other ∈ seen, other.1 ≠ entry.1)
    (count : Nat) (rest : List UInt8) :
    decodeAll seen (count + 1) (first ++ rest) = decodeAll (seen ++ [entry]) count rest := by
  obtain ⟨bounds, rfl⟩ := encodeEntry_eq_some_iff.mp encoded
  obtain ⟨high, low, isLen⟩ :
      ∃ high low, toBeBytes16 (UInt16.ofNat entry.2.length) = [high, low] :=
    List.length_eq_two.mp (length_toBeBytes16 _)
  have isValueLen : (fromBeBytes16 ⟨[high, low], rfl⟩).toNat = entry.2.length := by
    have same := fromBeBytes16_toBeBytes16 (UInt16.ofNat entry.2.length)
    simp only [isLen] at same
    rw [same, bounds.toNat_valueLen]
  have unseen : seen.any (fun other => other.1 == entry.1) = false := by
    rw [List.any_eq_false]
    intro other member same
    exact isNew other member (by simpa using same)
  rw [List.cons_append, decodeAll, bounds.toNat_nameLen, isLen]
  have split : asBytes entry.1 ++ [high, low] ++ entry.2 ++ rest =
      asBytes entry.1 ++ (high :: low :: (entry.2 ++ rest)) := by
    simp only [List.append_assoc, List.cons_append, List.nil_append]
  rw [split, if_neg (by simp), List.take_left' rfl, List.drop_left' rfl, fromUtf8_asBytes]
  simp only [bounds.name, unseen, isValueLen, List.take_left' rfl, List.drop_left' rfl]
  rw [if_neg (by simp), if_neg (by simpa using bounds.value)]

/-- A turn of the loop that went on has read an entry of a new name. -/
theorem exists_entry_of_decodeAll {seen entries : List Entry} {count : Nat} {bytes : List UInt8}
    (read : decodeAll seen (count + 1) bytes = some entries) :
    ∃ entry first rest, bytes = first ++ rest ∧ encodeEntry entry = some first ∧
      (∀ other ∈ seen, other.1 ≠ entry.1) ∧
      decodeAll (seen ++ [entry]) count rest = some entries := by
  unfold decodeAll at read
  split at read
  · cases read
  next nameLen tail =>
    split at read
    · cases read
    next enough =>
      split at read
      · cases read
      next name isName =>
        split at read
        · cases read
        next valid =>
          split at read
          next high low value isTail =>
            dsimp only at read
            split at read
            · cases read
            next fits =>
              simp only [Bool.or_eq_true, not_or, Bool.not_eq_true, Bool.not_eq_false'] at valid
              simp only [Bool.or_eq_true, decide_eq_true_eq, not_or, not_lt] at fits
              have nameLength : (tail.take nameLen.toNat).length = nameLen.toNat := by
                rw [List.length_take]
                omega
              have valueLength := List.length_take_of_le fits.2
              refine ⟨_, _, _, ?_, encodeEntry_of_parts isName nameLength valid.1 valueLength
                (valueLength.trans_le fits.1), ?_, read⟩
              · have whole : tail = tail.take nameLen.toNat ++ high :: low :: value := by
                  rw [← isTail, List.take_append_drop]
                simp only [List.cons_append, List.append_assoc, List.nil_append,
                  List.take_append_drop]
                rw [← whole]
              · intro other member same
                have found := List.any_eq_false.mp valid.2 other member
                exact found (by simpa using same)
          · cases read

theorem exists_of_encodeAll_cons {entry : Entry} {entries : List Entry} {bytes : List UInt8}
    (encoded : encodeAll (entry :: entries) = some bytes) :
    ∃ first rest, encodeEntry entry = some first ∧ encodeAll entries = some rest ∧
      bytes = first ++ rest := by
  rw [encodeAll] at encoded
  obtain ⟨first, isFirst, encoded⟩ := Option.bind_eq_some_iff.mp encoded
  obtain ⟨rest, isRest, same⟩ := Option.bind_eq_some_iff.mp encoded
  exact ⟨first, rest, isFirst, isRest, (Option.some.inj same).symm⟩

/-- What a run of the loop has read is written as what it read. -/
theorem encodeAll_of_decodeAll {seen entries : List Entry} {count : Nat} {rest : List UInt8}
    (read : decodeAll seen count rest = some entries) :
    ∃ more, entries = seen ++ more ∧ more.length = count ∧ encodeAll more = some rest := by
  induction count generalizing seen rest with
  | zero =>
      unfold decodeAll at read
      split at read
      · cases read
      next whole =>
        cases read
        rw [Bool.not_eq_true, Bool.not_eq_false', List.isEmpty_iff] at whole
        exact ⟨[], by simp, rfl, by rw [whole]; rfl⟩
  | succ count ih =>
      obtain ⟨entry, first, rest, rfl, isFirst, -, read⟩ := exists_entry_of_decodeAll read
      obtain ⟨more, rfl, length, isRest⟩ := ih read
      refine ⟨entry :: more, by rw [List.append_assoc]; rfl, by simp [length], ?_⟩
      rw [encodeAll, isFirst, isRest]
      rfl

/-- What was written of entries of different names is read as these. -/
theorem decodeAll_of_encodeAll {seen entries : List Entry} {bytes : List UInt8}
    (encoded : encodeAll entries = some bytes)
    (different : ((seen ++ entries).map Prod.fst).Nodup) :
    decodeAll seen entries.length bytes = some (seen ++ entries) := by
  induction entries generalizing seen bytes with
  | nil =>
      cases encoded
      rw [List.append_nil]
      rfl
  | cons entry entries ih =>
      obtain ⟨first, rest, isFirst, isRest, rfl⟩ := exists_of_encodeAll_cons encoded
      have isNew : ∀ other ∈ seen, other.1 ≠ entry.1 := by
        intro other member same
        rw [List.map_append, List.nodup_append] at different
        exact different.2.2 _ (List.mem_map_of_mem member) _ List.mem_cons_self same
      rw [List.length_cons, decodeAll_append_entry isFirst isNew, ih isRest,
        List.append_assoc]
      · rfl
      · rw [List.append_assoc]
        exact different

/-- No run of the loop reads a name twice. -/
theorem nodup_of_decodeAll {seen entries : List Entry} {count : Nat} {bytes : List UInt8}
    (read : decodeAll seen count bytes = some entries) (different : (seen.map Prod.fst).Nodup) :
    (entries.map Prod.fst).Nodup := by
  induction count generalizing seen bytes with
  | zero =>
      unfold decodeAll at read
      split at read
      · cases read
      · cases read
        exact different
  | succ count ih =>
      obtain ⟨entry, first, rest, -, -, isNew, read⟩ := exists_entry_of_decodeAll read
      apply ih read
      rw [List.map_append, List.nodup_append]
      refine ⟨different, by simp, ?_⟩
      intro name member other isOther same
      obtain ⟨old, isOld, rfl⟩ := List.mem_map.mp member
      rw [List.map_cons, List.map_nil, List.mem_singleton] at isOther
      exact isNew old isOld (same.trans isOther)

/-- Entries that were read are written as they came. -/
theorem encodeEntries_of_decodeEntries {bytes : List UInt8} {entries : List Entry}
    (read : decodeEntries bytes = some entries) : encodeEntries entries = some bytes := by
  unfold decodeEntries at read
  split at read
  · cases read
  next short =>
    split at read
    · cases read
    next count rest =>
      split at read
      · cases read
      next few =>
        obtain ⟨more, rfl, length, encoded⟩ := encodeAll_of_decodeAll read
        unfold encodeEntries
        rw [length, if_neg few, encoded]
        simp only [UInt8.ofNat_toNat, Option.bind_eq_bind, Option.bind_some, if_neg short]

theorem decodeEntries_of_enroll {op : UInt8} {payload : List UInt8} {entries : List Entry}
    (isRequest : LogonEnroll.decodeRequest op payload = some (.enroll entries)) :
    decodeEntries payload = some entries := by
  unfold LogonEnroll.decodeRequest at isRequest
  split at isRequest
  · obtain ⟨read, isRead, same⟩ := Option.map_eq_some_iff.mp isRequest
    cases same
    exact isRead
  · split at isRequest <;> cases isRequest
  · split at isRequest <;> cases isRequest
  · cases isRequest

/-- An enrolment that was read came as entries that can be read. -/
theorem exists_payload_of_enroll {R : Type} [Read R] {reader : R} {entries : List Entry}
    (isRequest : (LogonEnroll.readRequest reader).1 = some (.enroll entries)) :
    ∃ payload, decodeEntries payload = some entries := by
  unfold LogonEnroll.readRequest at isRequest
  split at isRequest
  · cases isRequest
  · split at isRequest
    · cases isRequest
    · split at isRequest
      · cases isRequest
      next payload _ _ => exact ⟨payload.toList, decodeEntries_of_enroll isRequest⟩

/-- The loop writes entries in bounds, and the bytes of each. -/
theorem encodeAll_eq_some {entries : List Entry} {bytes : List UInt8}
    (encoded : encodeAll entries = some bytes) :
    (∀ entry ∈ entries, entry.InBounds) ∧ bytes.length = (entries.map Entry.size).sum := by
  induction entries generalizing bytes with
  | nil =>
      cases encoded
      exact ⟨nofun, rfl⟩
  | cons entry entries ih =>
      obtain ⟨first, rest, isFirst, isRest, rfl⟩ := exists_of_encodeAll_cons encoded
      obtain ⟨bounds, rfl⟩ := encodeEntry_eq_some_iff.mp isFirst
      obtain ⟨each, length⟩ := ih isRest
      refine ⟨List.forall_mem_cons.mpr ⟨bounds, each⟩, ?_⟩
      rw [List.map_cons, List.sum_cons, ← length, Entry.size]
      simp only [List.length_append, List.length_cons, length_toBeBytes16]
      omega

theorem exists_encodeAll {entries : List Entry} (each : ∀ entry ∈ entries, entry.InBounds) :
    ∃ bytes, encodeAll entries = some bytes := by
  induction entries with
  | nil => exact ⟨[], rfl⟩
  | cons entry entries ih =>
      obtain ⟨bounds, each⟩ := List.forall_mem_cons.mp each
      obtain ⟨rest, isRest⟩ := ih each
      have isFirst := encodeEntry_eq_some_iff.mpr ⟨bounds, rfl⟩
      rw [encodeAll, isFirst, isRest]
      exact ⟨_, rfl⟩

theorem encodeEntries_eq_some_iff {entries : List Entry} {bytes : List UInt8} :
    encodeEntries entries = some bytes ↔
      InBounds entries ∧ ∃ rest, encodeAll entries = some rest ∧
        bytes = UInt8.ofNat entries.length :: rest := by
  unfold encodeEntries
  constructor
  · intro encoded
    split at encoded
    · cases encoded
    next few =>
      obtain ⟨rest, isRest, encoded⟩ := Option.bind_eq_some_iff.mp encoded
      dsimp only at encoded
      split at encoded
      · cases encoded
      next short =>
        cases encoded
        obtain ⟨each, length⟩ := encodeAll_eq_some isRest
        rw [List.length_cons] at short
        exact ⟨⟨Nat.not_lt.mp few, each, by omega⟩, rest, isRest, rfl⟩
  · rintro ⟨bounds, rest, isRest, rfl⟩
    have length := (encodeAll_eq_some isRest).2
    have short := bounds.short
    rw [if_neg (Nat.not_lt.mpr bounds.few), isRest]
    simp only [Option.bind_eq_bind, Option.bind_some]
    rw [if_neg (by rw [List.length_cons]; omega)]

/-- Just the entries within the bounds are written. -/
theorem exists_encodeEntries_iff {entries : List Entry} :
    (∃ bytes, encodeEntries entries = some bytes) ↔ InBounds entries := by
  constructor
  · rintro ⟨bytes, encoded⟩
    exact (encodeEntries_eq_some_iff.mp encoded).1
  · intro bounds
    obtain ⟨rest, isRest⟩ := exists_encodeAll bounds.each
    exact ⟨_, encodeEntries_eq_some_iff.mpr ⟨bounds, rest, isRest, rfl⟩⟩

theorem InBounds.toNat_count {entries : List Entry} (bounds : InBounds entries) :
    (UInt8.ofNat entries.length).toNat = entries.length := by
  have few := bounds.few
  unfold maxEntries at few
  exact UInt8.toNat_ofNat_of_lt' (show _ < 256 by omega)

theorem decodeEntries_of_encodeEntries {entries : List Entry} {bytes : List UInt8}
    (encoded : encodeEntries entries = some bytes) (different : (entries.map Prod.fst).Nodup) :
    decodeEntries bytes = some entries := by
  obtain ⟨bounds, rest, isRest, rfl⟩ := encodeEntries_eq_some_iff.mp encoded
  have length := (encodeAll_eq_some isRest).2
  have short := bounds.short
  unfold decodeEntries
  rw [if_neg (by rw [List.length_cons]; omega)]
  dsimp only
  rw [bounds.toNat_count, if_neg (Nat.not_lt.mpr bounds.few), decodeAll_of_encodeAll isRest]
  · rfl
  · exact different

theorem nodup_of_decodeEntries {bytes : List UInt8} {entries : List Entry}
    (read : decodeEntries bytes = some entries) : (entries.map Prod.fst).Nodup := by
  unfold decodeEntries at read
  split at read
  · cases read
  · split at read
    · cases read
    · split at read
      · cases read
      · exact nodup_of_decodeAll read List.nodup_nil

/-- What is written of entries is read as these, unless a name stands there twice. -/
theorem decodeEntries_encodeEntries_iff (entries : List Entry) :
    (∀ bytes, encodeEntries entries = some bytes → decodeEntries bytes = some entries) ↔
      (InBounds entries → (entries.map Prod.fst).Nodup) := by
  constructor
  · intro same bounds
    obtain ⟨bytes, encoded⟩ := exists_encodeEntries_iff.mpr bounds
    exact nodup_of_decodeEntries (same bytes encoded)
  · intro different bytes encoded
    exact decodeEntries_of_encodeEntries encoded
      (different (exists_encodeEntries_iff.mp ⟨bytes, encoded⟩))

/-! No encoding is the beginning of another one. -/

theorem encodeEntry_inj_append {entry other : Entry} {first second rest more : List UInt8}
    (isFirst : encodeEntry entry = some first) (isSecond : encodeEntry other = some second)
    (same : first ++ rest = second ++ more) : entry = other ∧ rest = more := by
  obtain ⟨bounds, rfl⟩ := encodeEntry_eq_some_iff.mp isFirst
  obtain ⟨bounds', rfl⟩ := encodeEntry_eq_some_iff.mp isSecond
  simp only [List.cons_append, List.append_assoc, List.cons.injEq] at same
  obtain ⟨nameLen, same⟩ := same
  have nameLength : (asBytes entry.1).length = (asBytes other.1).length := by
    rw [← bounds.toNat_nameLen, ← bounds'.toNat_nameLen, nameLen]
  obtain ⟨isName, same⟩ := List.append_inj same nameLength
  obtain ⟨isLen, same⟩ := List.append_inj same (by simp)
  have valueLength : entry.2.length = other.2.length := by
    have read := fromBeBytes16_toBeBytes16 (UInt16.ofNat entry.2.length)
    simp only [isLen] at read
    rw [← bounds.toNat_valueLen, ← bounds'.toNat_valueLen, ← read, fromBeBytes16_toBeBytes16]
  obtain ⟨isValue, same⟩ := List.append_inj same valueLength
  exact ⟨Prod.ext (asBytes_inj isName) isValue, same⟩

theorem encodeAll_inj_append {entries others : List Entry} {first second rest more : List UInt8}
    (isFirst : encodeAll entries = some first) (isSecond : encodeAll others = some second)
    (length : entries.length = others.length) (same : first ++ rest = second ++ more) :
    entries = others ∧ rest = more := by
  induction entries generalizing others first second with
  | nil =>
      cases List.length_eq_zero_iff.mp length.symm
      cases isFirst
      cases isSecond
      exact ⟨rfl, same⟩
  | cons entry entries ih =>
      cases others with
      | nil => cases length
      | cons other others =>
          obtain ⟨front, back, isFront, isBack, rfl⟩ := exists_of_encodeAll_cons isFirst
          obtain ⟨front', back', isFront', isBack', rfl⟩ := exists_of_encodeAll_cons isSecond
          rw [List.append_assoc, List.append_assoc] at same
          obtain ⟨rfl, same⟩ := encodeEntry_inj_append isFront isFront' same
          obtain ⟨rfl, same⟩ := ih isBack isBack' (Nat.succ.inj length) same
          exact ⟨rfl, same⟩

/-- Entries that are cut short are refused. -/
theorem decodeEntries_of_isPrefix {entries : List Entry} {bytes front : List UInt8}
    (encoded : encodeEntries entries = some bytes) (isFront : front <+: bytes)
    (proper : front ≠ bytes) : decodeEntries front = none := by
  cases read : decodeEntries front with
  | none => rfl
  | some others =>
      obtain ⟨more, rfl⟩ := isFront
      obtain ⟨bounds, rest, isRest, same⟩ := encodeEntries_eq_some_iff.mp encoded
      obtain ⟨bounds', rest', isRest', rfl⟩ :=
        encodeEntries_eq_some_iff.mp (encodeEntries_of_decodeEntries read)
      rw [List.cons_append, List.cons.injEq] at same
      have length : others.length = entries.length := by
        rw [← bounds.toNat_count, ← bounds'.toNat_count, same.1]
      have none := (encodeAll_inj_append isRest' isRest length
        (same.2.trans (List.append_nil rest).symm)).2
      rw [none, List.append_nil] at proper
      exact absurd rfl proper

/-! Requests -/

/-- The entries of a request. -/
def Request.entries : Request → List Entry
  | .enroll entries => entries
  | .withdraw | .status => []

/-- What `encode_request` writes before the payload. -/
def header (op : UInt8) (len : Nat) : List UInt8 :=
  magic ++ [version, op] ++ toBeBytes32 (UInt32.ofNat len)

theorem length_header (op : UInt8) (len : Nat) : (header op len).length = headerBytes := by
  unfold header magic
  simp

theorem announced_header (op : UInt8) {len : Nat} (short : len ≤ maxPayload) :
    announced (header op len) = some (op, len) := by
  obtain ⟨a, b, c, d, isLen⟩ :
      ∃ a b c d, toBeBytes32 (UInt32.ofNat len) = [a, b, c, d] :=
    List.length_eq_four.mp (length_toBeBytes32 _)
  have isLength : (fromBeBytes32 ⟨[a, b, c, d], rfl⟩).toNat = len := by
    have same := fromBeBytes32_toBeBytes32 (UInt32.ofNat len)
    simp only [isLen] at same
    rw [same]
    unfold maxPayload at short
    exact UInt32.toNat_ofNat_of_lt' (show _ < 4294967296 by omega)
  rw [header, isLen, magic]
  simp only [List.cons_append, List.nil_append]
  rw [announced, if_neg (by decide), if_neg (by decide)]
  dsimp only
  rw [isLength, if_neg (Nat.not_lt.mpr short)]

theorem eq_header_of_announced {bytes : List UInt8} {op : UInt8} {len : Nat}
    (isAnnounced : announced bytes = some (op, len)) :
    bytes = header op len ∧ len ≤ maxPayload := by
  unfold announced at isAnnounced
  split at isAnnounced
  next m0 m1 m2 m3 isVersion op a b c d =>
    split at isAnnounced
    · cases isAnnounced
    next isMagic =>
      split at isAnnounced
      · cases isAnnounced
      next same =>
        dsimp only at isAnnounced
        split at isAnnounced
        · cases isAnnounced
        next short =>
          cases isAnnounced
          refine ⟨?_, Nat.not_lt.mp short⟩
          have bytes := toBeBytes32_fromBeBytes32 ⟨[a, b, c, d], rfl⟩
          rw [header, ← not_ne_iff.mp isMagic, not_ne_iff.mp same, UInt32.ofNat_toNat, bytes]
          rfl
  · cases isAnnounced

theorem decodeRequest_eq_some_iff {op : UInt8} {payload : List UInt8} {request : Request} :
    decodeRequest op payload = some request ↔
      request.parts = some (op, payload) ∧ (request.entries.map Prod.fst).Nodup := by
  constructor
  · intro read
    unfold decodeRequest at read
    split at read
    · obtain ⟨entries, isRead, rfl⟩ := Option.map_eq_some_iff.mp read
      refine ⟨?_, nodup_of_decodeEntries isRead⟩
      rw [Request.parts, encodeEntries_of_decodeEntries isRead]
      rfl
    · split at read
      next empty =>
        cases read
        rw [List.isEmpty_iff.mp empty]
        exact ⟨rfl, List.nodup_nil⟩
      · cases read
    · split at read
      next empty =>
        cases read
        rw [List.isEmpty_iff.mp empty]
        exact ⟨rfl, List.nodup_nil⟩
      · cases read
    · cases read
  · rintro ⟨isParts, different⟩
    cases request with
    | enroll entries =>
        obtain ⟨payload, encoded, same⟩ := Option.map_eq_some_iff.mp isParts
        cases same
        show (decodeEntries payload).map Request.enroll = _
        rw [decodeEntries_of_encodeEntries encoded different]
        rfl
    | withdraw =>
        cases isParts
        rfl
    | status =>
        cases isParts
        rfl

theorem Request.length_of_parts {request : Request} {op : UInt8} {payload : List UInt8}
    (isParts : request.parts = some (op, payload)) : payload.length ≤ maxPayload := by
  cases request with
  | enroll entries =>
      obtain ⟨payload, encoded, same⟩ := Option.map_eq_some_iff.mp isParts
      cases same
      obtain ⟨bounds, rest, isRest, rfl⟩ := encodeEntries_eq_some_iff.mp encoded
      have length := (encodeAll_eq_some isRest).2
      have short := bounds.short
      rw [List.length_cons]
      omega
  | withdraw =>
      cases isParts
      exact Nat.zero_le _
  | status =>
      cases isParts
      exact Nat.zero_le _

theorem Request.exists_parts_iff {request : Request} :
    (∃ parts, request.parts = some parts) ↔ InBounds request.entries := by
  have nothing : InBounds [] := ⟨Nat.zero_le _, nofun, by decide⟩
  cases request with
  | enroll entries =>
      apply Iff.trans _ exists_encodeEntries_iff
      simp only [parts, Option.map_eq_some_iff]
      constructor
      · rintro ⟨-, payload, encoded, -⟩
        exact ⟨payload, encoded⟩
      · rintro ⟨payload, encoded⟩
        exact ⟨_, payload, encoded, rfl⟩
  | withdraw => exact ⟨fun _ => nothing, fun _ => ⟨_, rfl⟩⟩
  | status => exact ⟨fun _ => nothing, fun _ => ⟨_, rfl⟩⟩

theorem encodeRequest_eq_some_iff {request : Request} {bytes : List UInt8} :
    encodeRequest request = some bytes ↔
      ∃ op payload, request.parts = some (op, payload) ∧
        bytes = header op payload.length ++ payload := by
  unfold encodeRequest
  constructor
  · intro encoded
    obtain ⟨⟨op, payload⟩, isParts, encoded⟩ := Option.bind_eq_some_iff.mp encoded
    dsimp only at encoded
    split at encoded
    · cases encoded
    · cases encoded
      exact ⟨op, payload, isParts, rfl⟩
  · rintro ⟨op, payload, isParts, rfl⟩
    have short := Request.length_of_parts isParts
    unfold maxPayload at short
    rw [isParts]
    simp only [Option.bind_eq_bind, Option.bind_some]
    rw [if_neg (by omega)]
    rfl

/-! Reading from a byte string. -/

theorem readExact_append {n : Nat} {front : List UInt8} (length : front.length = n)
    (rest : List UInt8) : Read.readExact (front ++ rest) n = (some ⟨front, length⟩, rest) := by
  simp only [Read.readExact, splitBytes_of_length length]

theorem readExact_of_short {n : Nat} {bytes : List UInt8} (short : bytes.length < n) :
    Read.readExact bytes n = (none, []) := by
  simp only [Read.readExact, splitBytes_eq_none short]

theorem append_of_readExact {n : Nat} {bytes rest : List UInt8} {front : Bytes n}
    (read : Read.readExact bytes n = (some front, rest)) : bytes = front.toList ++ rest := by
  simp only [Read.readExact] at read
  split at read
  next first left split =>
    cases read
    exact (append_of_splitBytes split).symm
  · cases read

/-- A header that announces as many bytes as follow. -/
theorem readRequest_of_announced {bytes payload : List UInt8} {op : UInt8}
    (isAnnounced : announced bytes = some (op, payload.length)) (rest : List UInt8) :
    readRequest (bytes ++ payload ++ rest) = (decodeRequest op payload, rest) := by
  have length : bytes.length = headerBytes := by
    rw [(eq_header_of_announced isAnnounced).1, length_header]
  unfold readRequest
  rw [List.append_assoc, readExact_append length]
  dsimp only [List.Vector.toList]
  rw [isAnnounced]
  dsimp only
  rw [readExact_append rfl]

/-- A header that announces more bytes than follow. -/
theorem readRequest_of_short {bytes left : List UInt8} {op : UInt8} {len : Nat}
    (isAnnounced : announced bytes = some (op, len)) (short : left.length < len) :
    (readRequest (bytes ++ left)).1 = none := by
  have length : bytes.length = headerBytes := by
    rw [(eq_header_of_announced isAnnounced).1, length_header]
  unfold readRequest
  rw [readExact_append length]
  dsimp only [List.Vector.toList]
  rw [isAnnounced]
  dsimp only
  rw [readExact_of_short short]

/-- Reading goes on from where a request ends. -/
theorem eq_append_of_readRequest {bytes rest : List UInt8} {request : Request}
    (read : readRequest bytes = (some request, rest)) :
    ∃ front, encodeRequest request = some front ∧ bytes = front ++ rest := by
  unfold readRequest at read
  split at read
  · cases read
  next first more isHeader =>
    split at read
    · cases read
    next op len isAnnounced =>
      split at read
      · cases read
      next payload left isPayload =>
        obtain ⟨isRequest, rfl⟩ := Prod.mk.inj read
        have isParts := (decodeRequest_eq_some_iff.mp isRequest).1
        refine ⟨_, encodeRequest_eq_some_iff.mpr ⟨op, _, isParts, rfl⟩, ?_⟩
        rw [append_of_readExact isHeader, append_of_readExact isPayload,
          (eq_header_of_announced isAnnounced).1, payload.toList_length, List.append_assoc]

/-- What is written of a request is read as it, unless a name stands there twice. -/
theorem readRequest_encodeRequest_iff (request : Request) :
    (∀ bytes, encodeRequest request = some bytes →
        ∀ rest, readRequest (bytes ++ rest) = (some request, rest)) ↔
      (InBounds request.entries → (request.entries.map Prod.fst).Nodup) := by
  have readsParts : ∀ {op payload}, request.parts = some (op, payload) → ∀ rest,
      readRequest (header op payload.length ++ payload ++ rest) =
        (decodeRequest op payload, rest) :=
    fun isParts rest =>
      readRequest_of_announced (announced_header _ (Request.length_of_parts isParts)) rest
  constructor
  · intro same bounds
    obtain ⟨⟨op, payload⟩, isParts⟩ := Request.exists_parts_iff.mpr bounds
    have read := same _ (encodeRequest_eq_some_iff.mpr ⟨op, payload, isParts, rfl⟩) []
    rw [readsParts isParts] at read
    exact (decodeRequest_eq_some_iff.mp (Prod.mk.inj read).1).2
  · intro different bytes encoded rest
    obtain ⟨op, payload, isParts, rfl⟩ := encodeRequest_eq_some_iff.mp encoded
    have distinct := different (Request.exists_parts_iff.mp ⟨_, isParts⟩)
    rw [readsParts isParts, decodeRequest_eq_some_iff.mpr ⟨isParts, distinct⟩]

/-- A request that is cut short is refused. -/
theorem readRequest_of_isPrefix {request : Request} {bytes front : List UInt8}
    (encoded : encodeRequest request = some bytes) (isFront : front <+: bytes)
    (proper : front ≠ bytes) : (readRequest front).1 = none := by
  obtain ⟨op, payload, isParts, rfl⟩ := encodeRequest_eq_some_iff.mp encoded
  have isAnnounced := announced_header op (Request.length_of_parts isParts)
  have shorter : front.length < headerBytes + payload.length := by
    have notLonger := isFront.length_le
    have different : front.length ≠ (header op payload.length ++ payload).length :=
      fun same => proper (isFront.eq_of_length same)
    rw [List.length_append, length_header] at notLonger different
    omega
  by_cases short : front.length < headerBytes
  · unfold readRequest
    rw [readExact_of_short short]
  · -- The header is there, and less than it announces.
    obtain ⟨left, rfl⟩ : header op payload.length <+: front := by
      apply List.prefix_of_prefix_length_le (List.prefix_append _ _) isFront
      rw [length_header]
      exact Nat.not_lt.mp short
    rw [List.length_append, length_header] at shorter
    exact readRequest_of_short isAnnounced (by omega)

/-- No more is read than the header, and what a header that passes the checks announces. -/
theorem readRequest_snd {R : Type} [Read R] (reader : R) :
    (readRequest reader).2 =
      match Read.readExact reader headerBytes with
      | (none, reader) => reader
      | (some bytes, reader) =>
          match announced bytes.toList with
          | none => reader
          | some (_, len) => (Read.readExact reader len).2 := by
  unfold readRequest
  rcases Read.readExact reader headerBytes with ⟨isNone | bytes, rest⟩
  · rfl
  · dsimp only
    cases announced bytes.toList with
    | none => rfl
    | some parts =>
        dsimp only
        rcases Read.readExact rest parts.2 with ⟨isNone | payload, left⟩
        · rfl
        · rfl

/-! No slice lies outside. -/

namespace Sliced

theorem decodeAll_eq (seen : List Entry) (count : Nat) (bytes : List UInt8) :
    decodeAll seen count bytes = some (LogonEnroll.decodeAll seen count bytes) := by
  induction count generalizing seen bytes with
  | zero =>
      unfold decodeAll LogonEnroll.decodeAll
      rfl
  | succ count ih =>
      unfold decodeAll LogonEnroll.decodeAll
      split
      · rfl
      next nameLen tail =>
        split
        · rfl
        next enough =>
          obtain ⟨nameBytes, more, rfl, nameLength⟩ :
              ∃ first rest, tail = first ++ rest ∧ first.length = nameLen.toNat :=
            ⟨_, _, (List.take_append_drop nameLen.toNat tail).symm,
              List.length_take_of_le (by omega)⟩
          rw [splitBytes_of_length nameLength, List.take_left' nameLength,
            List.drop_left' nameLength]
          dsimp only [Option.bind_eq_bind, Option.bind_some, List.Vector.toList]
          split
          · rfl
          next name _ =>
            split
            · rfl
            next valid =>
              rw [List.length_append, nameLength] at enough
              match more with
              | high :: low :: rest =>
                  have isLen : splitBytes 2 (high :: low :: rest) =
                      some (⟨[high, low], rfl⟩, rest) :=
                    @splitBytes_of_length 2 [high, low] rfl rest
                  rw [isLen]
                  dsimp only [Option.bind_some, List.Vector.toList, List.getElem?_cons_zero,
                    List.getElem?_cons_succ]
                  split
                  · rfl
                  next fits =>
                    simp only [Bool.or_eq_true, decide_eq_true_eq, not_or, not_lt] at fits
                    obtain ⟨value, left, rfl, valueLength⟩ :
                        ∃ first back, rest = first ++ back ∧
                          first.length = (fromBeBytes16 ⟨[high, low], rfl⟩).toNat :=
                      ⟨_, _, (List.take_append_drop _ rest).symm,
                        List.length_take_of_le fits.2⟩
                    rw [splitBytes_of_length valueLength, List.take_left' valueLength,
                      List.drop_left' valueLength]
                    exact ih _ _
              | [] => simp at enough
              | [_] => simp at enough

theorem decodeEntries_eq (bytes : List UInt8) :
    decodeEntries bytes = some (LogonEnroll.decodeEntries bytes) := by
  unfold decodeEntries LogonEnroll.decodeEntries
  split
  · rfl
  · split
    · rfl
    · split
      · rfl
      · exact decodeAll_eq _ _ _

/-- An index that lies inside. -/
theorem bind_getElem? {β : Type} {bytes : List UInt8} {i : Nat} {b : UInt8}
    (inside : bytes[i]? = some b) (next : UInt8 → Option β) : (bytes[i]? >>= next) = next b := by
  rw [inside]
  rfl

theorem announced_eq (header : Bytes headerBytes) :
    announced header.toList = some (LogonEnroll.announced header.toList) := by
  obtain ⟨bytes, length⟩ := header
  dsimp only [List.Vector.toList]
  match bytes, length with
  | [m0, m1, m2, m3, isVersion, op, a, b, c, d], _ =>
      have front : getRange [m0, m1, m2, m3, isVersion, op, a, b, c, d] 0 4 =
          some [m0, m1, m2, m3] := rfl
      unfold announced
      rw [front, Option.bind_eq_bind, Option.bind_some, LogonEnroll.announced]
      by_cases isMagic : [m0, m1, m2, m3] ≠ magic
      · rw [if_pos isMagic, if_pos isMagic]
      · rw [if_neg isMagic, if_neg isMagic, @bind_getElem? _ _ 4 isVersion rfl]
        by_cases known : isVersion ≠ version
        · rw [if_pos known, if_pos known]
        · rw [if_neg known, if_neg known, @bind_getElem? _ _ 6 a rfl, @bind_getElem? _ _ 7 b rfl,
            @bind_getElem? _ _ 8 c rfl, @bind_getElem? _ _ 9 d rfl]
          by_cases long : (fromBeBytes32 ⟨[a, b, c, d], rfl⟩).toNat > maxPayload
          · rw [if_pos long, if_pos long]
          · rw [if_neg long, if_neg long, @bind_getElem? _ _ 5 op rfl]

theorem decodeRequest_eq (op : UInt8) (payload : List UInt8) :
    decodeRequest op payload = some (LogonEnroll.decodeRequest op payload) := by
  unfold decodeRequest LogonEnroll.decodeRequest
  split
  · rw [decodeEntries_eq]
    rfl
  · rfl
  · rfl
  · rfl

theorem readRequest_eq {R : Type} [Read R] (reader : R) :
    readRequest reader = some (LogonEnroll.readRequest reader) := by
  unfold readRequest LogonEnroll.readRequest
  rcases Read.readExact reader headerBytes with ⟨isNone | bytes, rest⟩
  · rfl
  · dsimp only
    rw [announced_eq]
    dsimp only [Option.bind_eq_bind, Option.bind_some]
    cases LogonEnroll.announced bytes.toList with
    | none => rfl
    | some parts =>
        dsimp only
        rcases Read.readExact rest parts.2 with ⟨isNone | payload, left⟩
        · rfl
        · dsimp only
          rw [decodeRequest_eq]
          rfl

end Sliced

/-- The encoding of entries and of requests. What is written of entries is read as these just where
no name stands there twice, as `encode_entries` does not check that; so it is with a request, also
where other bytes follow it. What is read was written of what it is read as. Nothing that is cut
short is read, no more is taken from a reader than the header and what it announces, whatever these
bytes are, and no slice or index lies outside. -/
theorem codec_inverse_iff (entries : List Entry) :
    (((∀ bytes, encodeEntries entries = some bytes → decodeEntries bytes = some entries) ↔
        (InBounds entries → (entries.map Prod.fst).Nodup)) ∧
      ∀ bytes front, encodeEntries entries = some bytes → front <+: bytes → front ≠ bytes →
        decodeEntries front = none) ∧
    (∀ bytes entries, decodeEntries bytes = some entries →
      encodeEntries entries = some bytes) ∧
    (∀ request : Request,
      ((∀ bytes, encodeRequest request = some bytes →
          ∀ rest, readRequest (bytes ++ rest) = (some request, rest)) ↔
        (InBounds request.entries → (request.entries.map Prod.fst).Nodup)) ∧
      ∀ bytes front, encodeRequest request = some bytes → front <+: bytes → front ≠ bytes →
        (readRequest front).1 = none) ∧
    (∀ bytes request rest, readRequest bytes = (some request, rest) →
      ∃ front, encodeRequest request = some front ∧ bytes = front ++ rest) ∧
    (∀ first payload rest op, announced first = some (op, payload.length) →
      (readRequest (first ++ payload ++ rest)).2 = rest) ∧
    (∀ (R : Type) [Read R] (reader : R),
      (readRequest reader).2 =
        match Read.readExact reader headerBytes with
        | (none, reader) => reader
        | (some bytes, reader) =>
            match announced bytes.toList with
            | none => reader
            | some (_, len) => (Read.readExact reader len).2) ∧
    (∀ bytes, Sliced.decodeEntries bytes = some (decodeEntries bytes)) ∧
    ∀ (R : Type) [Read R] (reader : R),
      Sliced.readRequest reader = some (readRequest reader) := by
  refine ⟨⟨decodeEntries_encodeEntries_iff entries, ?_⟩,
    fun _ _ => encodeEntries_of_decodeEntries,
    fun request => ⟨readRequest_encodeRequest_iff request, ?_⟩,
    fun _ _ _ => eq_append_of_readRequest, ?_, fun R _ => readRequest_snd,
    Sliced.decodeEntries_eq, fun R _ => Sliced.readRequest_eq⟩
  · intro bytes front encoded isFront proper
    exact decodeEntries_of_isPrefix encoded isFront proper
  · intro bytes front encoded isFront proper
    exact readRequest_of_isPrefix encoded isFront proper
  · intro first payload rest op isAnnounced
    rw [readRequest_of_announced isAnnounced]

/-- Two entries of one name are written, and what is written of them is refused. -/
theorem encoded_twins_are_refused :
    ∃ bytes, encodeEntries [("lumepeer.a", []), ("lumepeer.a", [])] = some bytes ∧
      decodeEntries bytes = none ∧
      ∃ request, encodeRequest (.enroll [("lumepeer.a", []), ("lumepeer.a", [])]) = some request ∧
        (readRequest request).1 = none := by
  refine ⟨[2, 10, 108, 117, 109, 101, 112, 101, 101, 114, 46, 97, 0, 0,
      10, 108, 117, 109, 101, 112, 101, 101, 114, 46, 97, 0, 0], by decide +kernel,
    by decide +kernel,
    [76, 80, 76, 72, 1, 1, 0, 0, 0, 27, 2, 10, 108, 117, 109, 101, 112, 101, 101, 114, 46, 97, 0, 0,
      10, 108, 117, 109, 101, 112, 101, 101, 114, 46, 97, 0, 0], by decide +kernel,
    by decide +kernel⟩

end Lumepeer.Service.LogonEnroll
