import Lumepeer.Net.Rendezvous

/-!
# Sealed and signed records

A sealed record opens under its own invite and kind to what was sealed, with or
without a signature behind it. For a record that somebody else wrote, the two
cuts of its plaintext agree: what `open` reads lies in the bytes the signature
covers, and nothing stands beside these and the signature.
-/

namespace Lumepeer.Net
open Lumepeer.Lib Lumepeer.Core

namespace Rendezvous

/-- The bytes of a record before any signature. -/
def layout (version family : UInt8) {n : Nat} (octets : Bytes n) (port : Bytes 2)
    («at» : Bytes 8) : List UInt8 :=
  [version, family] ++ octets.toList ++ port.toList ++ «at».toList

theorem length_layout (version family : UInt8) {n : Nat} (octets : Bytes n) (port : Bytes 2)
    («at» : Bytes 8) : (layout version family octets port «at»).length = 2 + n + 2 + 8 := by
  simp [layout]
  omega

section
variable (version : UInt8) (port : Bytes 2) («at» : Bytes 8) (more : List UInt8)

/-- The four reads of `open`, wherever the octets end. -/
theorem reads_of_layout (family : UInt8) {n : Nat} (octets : Bytes n) :
    getRange (layout version family octets port «at» ++ more) 2 (2 + n) = some octets.toList ∧
    getRange (layout version family octets port «at» ++ more) (2 + n)
        (layout version family octets port «at» ++ more).length =
      some (port.toList ++ («at».toList ++ more)) := by
  constructor
  · exact getRange_eq_some_iff.mpr
      ⟨[version, family], port.toList ++ («at».toList ++ more), by simp [layout], rfl, by simp⟩
  · exact getRange_eq_some_iff.mpr
      ⟨[version, family] ++ octets.toList, [], by simp [layout], by simp; omega, by
        simp [layout]
        omega⟩

theorem reads_of_rest :
    getRange (port.toList ++ («at».toList ++ more)) 0 2 = some port.toList ∧
    getRange (port.toList ++ («at».toList ++ more)) 2 10 = some «at».toList := by
  constructor
  · exact getRange_eq_some_iff.mpr ⟨[], «at».toList ++ more, by simp, rfl, by simp⟩
  · exact getRange_eq_some_iff.mpr ⟨port.toList, more, by simp, by simp, by simp⟩

theorem readRecord_v4 (octets : Bytes 4) :
    readRecord (layout version 4 octets port «at» ++ more) =
      if version = formatVersion then
        some (SocketAddr.new (.v4 octets) (fromBeBytes16 port), fromBeBytes64 «at»)
      else none := by
  obtain ⟨isOctets, isRest⟩ := reads_of_layout version port «at» more 4 octets
  obtain ⟨isPort, isAt⟩ := reads_of_rest port «at» more
  unfold readRecord
  rw [isOctets, isRest]
  by_cases current : version = formatVersion
  · simp [layout, current, isPort, isAt, toArray_toList]
  · simp [layout, current]

theorem readRecord_v6 (octets : Bytes 16) :
    readRecord (layout version 6 octets port «at» ++ more) =
      if version = formatVersion then
        some (SocketAddr.new (.v6 octets) (fromBeBytes16 port), fromBeBytes64 «at»)
      else none := by
  obtain ⟨isOctets, isRest⟩ := reads_of_layout version port «at» more 6 octets
  obtain ⟨isPort, isAt⟩ := reads_of_rest port «at» more
  unfold readRecord
  rw [isOctets, isRest]
  by_cases current : version = formatVersion
  · simp [layout, current, isPort, isAt, toArray_toList]
  · simp [layout, current]

end

/-- Bytes of the right length with a known family are the layout of a record. -/
theorem exists_layout {fields : List UInt8} {family : UInt8} {n : Nat}
    (second : fields[1]? = some family) (length : fields.length = 2 + n + 2 + 8) :
    ∃ (version : UInt8) (octets : Bytes n) (port : Bytes 2) («at» : Bytes 8),
      fields = layout version family octets port «at» := by
  match fields, second, length with
  | version :: _ :: rest, second, length =>
      cases second
      simp only [List.length_cons] at length
      refine ⟨version, ⟨rest.take n, by simp; omega⟩, ⟨(rest.drop n).take 2, by simp; omega⟩,
        ⟨(rest.drop n).drop 2, by simp; omega⟩, ?_⟩
      simp only [layout, List.Vector.toList, List.append_assoc, List.take_append_drop,
        List.cons_append, List.nil_append]

/-- The cut for the signature covers every byte that `open` reads: what stands behind the fields
does not reach the sighting. -/
theorem readRecord_append {fields : List UInt8} (more : List UInt8)
    (whole : fieldsLen (fields ++ more) = some fields.length) :
    readRecord (fields ++ more) = readRecord fields := by
  obtain ⟨family, second, cut⟩ := Option.bind_eq_some_iff.mp whole
  split at cut
  · rename_i isV4
    subst isV4
    have length : fields.length = 2 + 4 + 2 + 8 := (Option.some.inj cut).symm
    rw [List.getElem?_append_left (by omega)] at second
    obtain ⟨version, octets, port, «at», rfl⟩ := exists_layout second length
    have bare := readRecord_v4 version port «at» [] octets
    rw [List.append_nil] at bare
    rw [readRecord_v4, bare]
  · split at cut
    · rename_i isV6
      subst isV6
      have length : fields.length = 2 + 16 + 2 + 8 := (Option.some.inj cut).symm
      rw [List.getElem?_append_left (by omega)] at second
      obtain ⟨version, octets, port, «at», rfl⟩ := exists_layout second length
      have bare := readRecord_v6 version port «at» [] octets
      rw [List.append_nil] at bare
      rw [readRecord_v6, bare]
    · cases cut

theorem exists_recordFields (addr : SocketAddr) («at» : UInt64) :
    ∃ (port : Bytes 2) (time : Bytes 8),
      fromBeBytes16 port = addr.port ∧ fromBeBytes64 time = «at» ∧
      recordFields addr «at» =
        match addr.ip with
        | .v4 octets => layout formatVersion 4 octets port time
        | .v6 octets => layout formatVersion 6 octets port time := by
  refine ⟨⟨toBeBytes16 addr.port, length_toBeBytes16 _⟩, ⟨toBeBytes64 «at», length_toBeBytes64 _⟩,
    fromBeBytes16_toBeBytes16 _, fromBeBytes64_toBeBytes64 _, ?_⟩
  unfold recordFields
  cases addr.ip <;> rfl

/-- A sealed record is read back, whatever follows its fields. -/
theorem readRecord_recordFields (addr : SocketAddr) («at» : UInt64) (more : List UInt8) :
    readRecord (recordFields addr «at» ++ more) =
      some (SocketAddr.new addr.ip addr.port, «at») := by
  obtain ⟨port, time, isPort, isTime, isFields⟩ := exists_recordFields addr «at»
  rw [isFields]
  cases addr.ip with
  | v4 octets => simp only [readRecord_v4, if_true, isPort, isTime]
  | v6 octets => simp only [readRecord_v6, if_true, isPort, isTime]

theorem length_recordFields_le (addr : SocketAddr) («at» : UInt64) :
    (recordFields addr «at»).length ≤ 28 := by
  obtain ⟨port, time, -, -, isFields⟩ := exists_recordFields addr «at»
  rw [isFields]
  cases addr.ip with
  | v4 octets =>
      simp only [length_layout]
      omega
  | v6 octets =>
      simp only [length_layout]
      omega

section
variable {aead : XChaCha20Poly1305} {deriveKey : DeriveKey} {ed : Dalek}

theorem unseal_append (inviteId : Bytes inviteIdBytes) (kind : Kind) (nonce : Bytes nonceBytes)
    (sealed : List UInt8) :
    «unseal» aead deriveKey inviteId kind (nonce.toList ++ sealed) =
      aead.decrypt (cipherKey deriveKey inviteId) nonce [kind.toU8] sealed := by
  have isNonce : getRange (nonce.toList ++ sealed) 0 nonceBytes = some nonce.toList :=
    getRange_eq_some_iff.mpr ⟨[], sealed, rfl, rfl, by simp⟩
  have isSealed : getRange (nonce.toList ++ sealed) nonceBytes (nonce.toList ++ sealed).length =
      some sealed :=
    getRange_eq_some_iff.mpr ⟨nonce.toList, [], by simp, by simp, by simp⟩
  unfold «unseal»
  rw [isNonce, isSealed]
  simp [toArray_toList]

/-- What `seal` puts under the seal: the fields and what is signed of them. -/
theorem exists_seal (ideal : aead.Ideal) (inviteId : Bytes inviteIdBytes) (kind : Kind)
    (addr : SocketAddr) («at» : UInt64) (signer : Option ed.SigningKey)
    (nonce : Bytes nonceBytes) :
    ∃ more sealed,
      aead.encrypt (cipherKey deriveKey inviteId) nonce [kind.toU8] (recordFields addr «at» ++ more) =
        some sealed ∧
      «seal» aead deriveKey ed inviteId kind addr «at» signer nonce =
        .ok (nonce.toList ++ sealed) := by
  have short := length_recordFields_le addr «at»
  cases signer with
  | none =>
      obtain ⟨sealed, made⟩ := ideal.accepts (cipherKey deriveKey inviteId) nonce [kind.toU8]
        (recordFields addr «at» ++ []) (by simp; omega)
      refine ⟨[], sealed, made, ?_⟩
      rw [List.append_nil] at made
      simp only [«seal», made]
  | some key =>
      obtain ⟨sealed, made⟩ := ideal.accepts (cipherKey deriveKey inviteId) nonce [kind.toU8]
        (recordFields addr «at» ++
          (ed.sign key (signedMessage inviteId (recordFields addr «at»))).toList)
        (by simp; omega)
      refine ⟨_, sealed, made, ?_⟩
      simp only [«seal», made]

/-- What `signed_by` has checked of a record: its plaintext is the signed fields and the signature,
nothing else. -/
theorem exists_fields_of_signedBy {inviteId : Bytes inviteIdBytes} {wire : List UInt8}
    {host : NodeId} (signed : signedBy aead deriveKey ed inviteId wire host = true) :
    ∃ (fields : List UInt8) (signature : Bytes signatureBytes) (key : ed.VerifyingKey),
      «unseal» aead deriveKey inviteId .host wire = some (fields ++ signature.toList) ∧
      fieldsLen (fields ++ signature.toList) = some fields.length ∧
      ed.fromBytes host.bytes = some key ∧
      ed.verify key (signedMessage inviteId fields) signature = true := by
  unfold signedBy at signed
  rcases opened : «unseal» aead deriveKey inviteId .host wire with - | plain
  · simp [opened] at signed
  · rcases measured : fieldsLen plain with - | n
    · simp [opened, measured] at signed
    · rcases isFields : getRange plain 0 n with - | fields
      · simp [opened, measured, isFields] at signed
      · rcases isRest : getRange plain n plain.length with - | rest
        · simp [opened, measured, isFields, isRest] at signed
        · rcases isArray : toArray signatureBytes rest with - | signature
          · simp [opened, measured, isFields, isRest, isArray] at signed
          · rcases isKey : ed.fromBytes host.bytes with - | key
            · simp [opened, measured, isFields, isRest, isArray, isKey] at signed
            · simp only [opened, measured, isFields, isRest, isArray, isKey] at signed
              obtain ⟨isPlain, length⟩ := eq_append_of_getRange isFields isRest
              rw [← toArray_eq_some_iff.mp isArray] at isPlain
              refine ⟨fields, signature, key, by rw [isPlain], ?_, rfl, signed⟩
              rw [← isPlain, measured, length]

theorem open_eq_some_iff {inviteId : Bytes inviteIdBytes} {kind : Kind} {wire : List UInt8}
    {seq : Int64} {sighting : Sighting} :
    «open» aead deriveKey inviteId kind wire seq = some sighting ↔
      ∃ plain, «unseal» aead deriveKey inviteId kind wire = some plain ∧
        readRecord plain = some (sighting.addr, sighting.at) ∧ sighting.seq = seq := by
  unfold Rendezvous.open
  constructor
  · intro opened
    obtain ⟨plain, unsealed, opened⟩ := Option.bind_eq_some_iff.mp opened
    obtain ⟨⟨addr, time⟩, read, opened⟩ := Option.bind_eq_some_iff.mp opened
    cases opened
    exact ⟨plain, unsealed, read, rfl⟩
  · rintro ⟨plain, unsealed, read, rfl⟩
    simp [unsealed, read]

/-- A sighting in a signed record is read out of the signed fields. -/
theorem fields_of_signed_sighting {inviteId : Bytes inviteIdBytes} {wire : List UInt8}
    {host : NodeId} {seq : Int64} {sighting : Sighting}
    (signed : signedBy aead deriveKey ed inviteId wire host = true)
    (opened : «open» aead deriveKey inviteId .host wire seq = some sighting) :
    ∃ (fields : List UInt8) (signature : Bytes signatureBytes) (key : ed.VerifyingKey),
      «unseal» aead deriveKey inviteId .host wire = some (fields ++ signature.toList) ∧
      ed.fromBytes host.bytes = some key ∧
      ed.verify key (signedMessage inviteId fields) signature = true ∧
      readRecord fields = some (sighting.addr, sighting.at) := by
  obtain ⟨fields, signature, key, unsealed, whole, isKey, verified⟩ :=
    exists_fields_of_signedBy signed
  obtain ⟨plain, unsealed', read, -⟩ := open_eq_some_iff.mp opened
  rw [unsealed] at unsealed'
  cases unsealed'
  rw [readRecord_append _ whole] at read
  exact ⟨fields, signature, key, unsealed, isKey, verified, read⟩

end

/-- The bytes a host signs in a record: the context, the invite and all of the plaintext but the
signature behind it. -/
def SignedBytes (aead : XChaCha20Poly1305) (deriveKey : DeriveKey)
    (inviteId : Bytes inviteIdBytes) (wire message : List UInt8) : Prop :=
  ∃ (fields : List UInt8) (signature : Bytes signatureBytes),
    «unseal» aead deriveKey inviteId .host wire = some (fields ++ signature.toList) ∧
      message = signedMessage inviteId fields

theorem signedMessage_inj {inviteId inviteId' : Bytes inviteIdBytes} {fields fields' : List UInt8}
    (same : signedMessage inviteId fields = signedMessage inviteId' fields') : fields = fields' := by
  refine List.append_inj_right same ?_
  rw [List.length_append, List.length_append, inviteId.toList_length, inviteId'.toList_length]

/-- A record opens to what was sealed under its own invite and kind, signed or not, and under no
other kind. In a record that is signed by a host and opens, the plaintext is the signed fields and
the signature and nothing else, and the address and the time are what `open` reads out of the
signed fields: two such records with the same signed bytes say the same. -/
theorem records_say_what_was_signed (aead : XChaCha20Poly1305) (ideal : aead.Ideal)
    (binds : aead.BindsByte) (deriveKey : DeriveKey) (ed : Dalek) :
    (∀ (inviteId : Bytes inviteIdBytes) (kind : Kind) (addr : SocketAddr) («at» : UInt64)
      (signer : Option ed.SigningKey) (nonce : Bytes nonceBytes),
      ∃ wire, «seal» aead deriveKey ed inviteId kind addr «at» signer nonce = .ok wire ∧
        (∀ seq, ∃ sighting, «open» aead deriveKey inviteId kind wire seq = some sighting ∧
          sighting.seq = seq ∧ sighting.addr.ip = addr.ip ∧ sighting.addr.port = addr.port ∧
          sighting.at = «at») ∧
        ∀ kind' seq, kind' ≠ kind → «open» aead deriveKey inviteId kind' wire seq = none) ∧
    (∀ (inviteId : Bytes inviteIdBytes) (wire : List UInt8) (host : NodeId) (seq : Int64)
      (sighting : Sighting), signedBy aead deriveKey ed inviteId wire host = true →
      «open» aead deriveKey inviteId .host wire seq = some sighting →
      ∃ (fields : List UInt8) (signature : Bytes signatureBytes) (key : ed.VerifyingKey),
        «unseal» aead deriveKey inviteId .host wire = some (fields ++ signature.toList) ∧
        ed.fromBytes host.bytes = some key ∧
        ed.verify key (signedMessage inviteId fields) signature = true ∧
        readRecord fields = some (sighting.addr, sighting.at)) ∧
    (∀ (inviteId inviteId' : Bytes inviteIdBytes) (wire wire' : List UInt8) (host host' : NodeId)
      (seq seq' : Int64) (sighting sighting' : Sighting) (message : List UInt8),
      signedBy aead deriveKey ed inviteId wire host = true →
      signedBy aead deriveKey ed inviteId' wire' host' = true →
      «open» aead deriveKey inviteId .host wire seq = some sighting →
      «open» aead deriveKey inviteId' .host wire' seq' = some sighting' →
      SignedBytes aead deriveKey inviteId wire message →
      SignedBytes aead deriveKey inviteId' wire' message →
        sighting.addr = sighting'.addr ∧ sighting.at = sighting'.at) := by
  refine ⟨?_, fun _ _ _ _ _ => fields_of_signed_sighting, ?_⟩
  · intro inviteId kind addr «at» signer nonce
    obtain ⟨more, sealed, made, isWire⟩ :=
      @exists_seal aead deriveKey ed ideal inviteId kind addr «at» signer nonce
    refine ⟨_, isWire, ?_, ?_⟩
    · intro seq
      refine ⟨{ seq := seq, addr := SocketAddr.new addr.ip addr.port, «at» := «at» },
        open_eq_some_iff.mpr ⟨recordFields addr «at» ++ more, ?_, ?_, rfl⟩, rfl, by simp, by simp,
        rfl⟩
      · rw [unseal_append]
        exact ideal.decrypt_iff.mpr made
      · exact readRecord_recordFields addr «at» more
    · intro kind' seq other
      have otherByte : kind'.toU8 ≠ kind.toU8 := by
        cases kind <;> cases kind' <;> first | exact absurd rfl other | decide
      unfold Rendezvous.open
      rw [unseal_append, binds made otherByte]
      rfl
  · intro inviteId inviteId' wire wire' host host' seq seq' sighting sighting' message signed
      signed' opened opened' ⟨fields, signature, isPlain, isMessage⟩
      ⟨fields', signature', isPlain', isMessage'⟩
    obtain ⟨front, back, key, unsealed, -, -, read⟩ :=
      fields_of_signed_sighting signed opened
    obtain ⟨front', back', key', unsealed', -, -, read'⟩ :=
      fields_of_signed_sighting signed' opened'
    have isFront : fields = front := List.append_inj_left'
      (Option.some.inj (isPlain.symm.trans unsealed)) (by simp)
    have isFront' : fields' = front' := List.append_inj_left'
      (Option.some.inj (isPlain'.symm.trans unsealed')) (by simp)
    have same : fields = fields' := signedMessage_inj (isMessage.symm.trans isMessage')
    rw [← isFront, same, isFront', read'] at read
    obtain ⟨sameAddr, sameTime⟩ := Prod.mk.inj (Option.some.inj read)
    exact ⟨sameAddr.symm, sameTime.symm⟩

/-- The invite of the tests (`rendezvous.rs:584`). -/
def sampleInvite : Bytes inviteIdBytes := List.Vector.replicate 16 0x42

/-- The record of `a_signed_record_still_opens_for_a_reader_that_ignores_the_signature`
(`rendezvous.rs:631-645`). -/
def sampleHostAddr : SocketAddr := .v4 ⟨[203, 0, 113, 7], rfl⟩ 4115

/-- The key `blake3` derives from that invite. -/
def sampleSealKey : Bytes 32 :=
  ⟨[51, 211, 93, 161, 111, 119, 24, 166, 37, 199, 221, 92, 250, 79, 100, 43, 128, 63, 121, 252,
    215, 214, 63, 122, 69, 35, 206, 1, 67, 206, 48, 33], rfl⟩

def sampleNonce : Bytes nonceBytes :=
  ⟨(List.range nonceBytes).map fun i => UInt8.ofNat (i + 1), rfl⟩

/-- The host's Ed25519 signature of the record under the test key. -/
def sampleSignature : Bytes signatureBytes :=
  ⟨[188, 54, 71, 92, 180, 32, 147, 33, 68, 202, 249, 72, 231, 129, 169, 203, 139, 41, 18, 109,
    47, 183, 18, 69, 166, 138, 78, 166, 240, 217, 1, 180, 133, 202, 162, 178, 29, 229, 120,
    214, 163, 205, 136, 154, 157, 100, 198, 98, 224, 215, 100, 14, 67, 29, 201, 217, 184, 52,
    128, 193, 49, 50, 200, 9], rfl⟩

/-- The public half of the test key. -/
def sampleHost : NodeId :=
  ⟨⟨[72, 7, 90, 89, 126, 114, 26, 21, 110, 46, 7, 153, 222, 92, 192, 197, 50, 77, 198, 231, 234,
    241, 205, 212, 98, 80, 134, 142, 197, 50, 21, 221], rfl⟩⟩

/-- The record under XChaCha20-Poly1305. -/
def sampleSealed : List UInt8 :=
  [123, 245, 25, 253, 9, 33, 134, 220, 207, 66, 146, 19, 73, 117, 246, 98, 64, 96, 6, 185, 132,
   47, 78, 137, 200, 89, 51, 108, 120, 144, 137, 255, 135, 10, 140, 81, 75, 84, 138, 252, 9,
   57, 107, 198, 10, 219, 12, 33, 157, 196, 127, 98, 41, 4, 210, 198, 96, 209, 46, 43, 24, 62,
   168, 132, 130, 34, 180, 119, 226, 172, 153, 94, 87, 28, 220, 137, 62, 8, 174, 254, 78, 157,
   161, 137, 5, 188, 28, 148, 160, 212, 117, 208, 177, 241, 123, 157]

def sampleAead : XChaCha20Poly1305 :=
  .knownAt sampleSealKey sampleNonce [Kind.host.toU8]
    (recordFields sampleHostAddr 7 ++ sampleSignature.toList) sampleSealed

/-- Ed25519 under the test key alone, known at the one message the record signs. -/
def sampleEd : Dalek where
  SigningKey := Unit
  VerifyingKey := Unit
  verifyingKey := id
  sign _ message :=
    if message = signedMessage sampleInvite (recordFields sampleHostAddr 7) then sampleSignature
    else List.Vector.replicate 64 0
  verifyStrict _ message signature :=
    message = signedMessage sampleInvite (recordFields sampleHostAddr 7) ∧
      signature = sampleSignature
  fromBytes bytes := if bytes = sampleHost.bytes then some () else none
  verify _ message signature :=
    message = signedMessage sampleInvite (recordFields sampleHostAddr 7) ∧
      signature = sampleSignature

/-- The record of the test is sealed, signed by its host and read back. -/
theorem sampleRecord_opens :
    sampleAead.Ideal ∧ sampleAead.BindsByte ∧
      (∃ wire, «seal» sampleAead (fun _ _ => sampleSealKey) sampleEd sampleInvite .host
          sampleHostAddr 7 (some ()) sampleNonce = .ok wire ∧
        ∃ sighting, «open» sampleAead (fun _ _ => sampleSealKey) sampleInvite .host wire 1 =
          some sighting ∧ sighting.addr.ip = sampleHostAddr.ip) ∧
      signedBy sampleAead (fun _ _ => sampleSealKey) sampleEd sampleInvite
        (sampleNonce.toList ++ sampleSealed) sampleHost = true := by
  have ideal : sampleAead.Ideal := XChaCha20Poly1305.knownAt_ideal (by decide) (by decide)
  have binds : sampleAead.BindsByte := XChaCha20Poly1305.knownAt_bindsByte (by decide)
  obtain ⟨wire, made, opens, -⟩ := (records_say_what_was_signed sampleAead ideal binds
    (fun _ _ => sampleSealKey) sampleEd).1 sampleInvite .host sampleHostAddr 7 (some ()) sampleNonce
  obtain ⟨sighting, opened, -, sameIp, -⟩ := opens 1
  exact ⟨ideal, binds, ⟨wire, made, sighting, opened, sameIp⟩, by decide⟩

end Rendezvous

end Lumepeer.Net
