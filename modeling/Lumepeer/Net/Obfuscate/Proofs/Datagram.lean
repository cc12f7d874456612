import Lumepeer.Net.Obfuscate

/-!
# Sealed datagrams

What `seal` makes, `open` of the other side takes apart again; how large a
sealed datagram is; and what `open` may answer to a byte string nobody vouches
for: a refusal, or a part of a frame that the peer's key sealed.
-/

namespace Lumepeer.Net
open Lumepeer.Lib Lumepeer.Core

namespace Obfuscator

variable {aead : XChaCha20Poly1305}

/-- The frame a payload is sealed in. -/
def frameOf (draw : SealDraw) (payload : List UInt8) : List UInt8 :=
  toLeBytes16 (UInt16.ofNat payload.length) ++ payload ++ padding draw payload

theorem length_padding (draw : SealDraw) (payload : List UInt8) :
    (padding draw payload).length =
      if payload.length > paddedUpToBytes then 0 else draw.padLen := by
  simp [padding]

theorem length_frameOf (draw : SealDraw) (payload : List UInt8) :
    (frameOf draw payload).length =
      payload.length + 2 + if payload.length > paddedUpToBytes then 0 else draw.padLen := by
  rw [frameOf, List.length_append, List.length_append, length_toLeBytes16, length_padding]
  omega

/-- The length header finds the payload between itself and the padding. -/
theorem payloadOf_frameOf (draw : SealDraw) {payload : List UInt8}
    (fits : payload.length < 2 ^ 16) : payloadOf (frameOf draw payload) = .ok payload := by
  have header := length_toLeBytes16 (UInt16.ofNat payload.length)
  have length : (UInt16.ofNat payload.length).toNat = payload.length :=
    UInt16.toNat_ofNat_of_lt' fits
  have cut := getRange_append (toLeBytes16 (UInt16.ofNat payload.length)) payload
    (padding draw payload)
  rw [header] at cut
  unfold payloadOf frameOf
  rw [List.append_assoc, splitBytes_of_length header]
  simp only [fromLeBytes16_toLeBytes16, length]
  rw [← List.append_assoc, cut]

/-- A payload that `open` finds is a part of the frame, behind its length header. -/
theorem payloadOf_inside (frame : List UInt8) :
    payloadOf frame = .error .obfuscation ∨
      ∃ before payload after, frame = before ++ payload ++ after ∧
        before.length = lenHeaderBytes ∧ payloadOf frame = .ok payload := by
  unfold payloadOf
  rcases splitBytes lenHeaderBytes frame with - | ⟨lenBytes, rest⟩
  · exact .inl rfl
  · simp only
    rcases cut : getRange frame lenHeaderBytes
      (lenHeaderBytes + (fromLeBytes16 lenBytes).toNat) with - | payload
    · exact .inl rfl
    · obtain ⟨before, after, isFrame, header, -⟩ := getRange_eq_some_iff.mp cut
      exact .inr ⟨before, payload, after, isFrame, header, rfl⟩

theorem seal_eq (obfuscator : Obfuscator) (draw : SealDraw) {payload : List UInt8}
    (fits : payload.length < 2 ^ 16) :
    obfuscator.seal aead draw payload =
      match aead.encrypt obfuscator.sealKey draw.nonce [] (frameOf draw payload) with
      | none => .error .obfuscation
      | some ciphertext => .ok (draw.nonce.toList ++ ciphertext) :=
  if_neg (Nat.not_le.mpr fits)

theorem seal_too_long (obfuscator : Obfuscator) (draw : SealDraw) {payload : List UInt8}
    (long : 2 ^ 16 ≤ payload.length) :
    obfuscator.seal aead draw payload = .error .obfuscation :=
  if_pos long

/-- No payload that fits the length header is refused. -/
theorem exists_seal (ideal : aead.Ideal) (obfuscator : Obfuscator) (draw : SealDraw)
    {payload : List UInt8} (fits : payload.length < 2 ^ 16) :
    ∃ ciphertext,
      aead.encrypt obfuscator.sealKey draw.nonce [] (frameOf draw payload) = some ciphertext ∧
      obfuscator.seal aead draw payload = .ok (draw.nonce.toList ++ ciphertext) := by
  have short : (frameOf draw payload).length < 2 ^ 38 - 64 := by
    have drawn : draw.padLen ≤ 128 := draw.padLen_le
    rw [length_frameOf]
    split <;> omega
  obtain ⟨ciphertext, sealed⟩ := ideal.accepts obfuscator.sealKey draw.nonce [] _ short
  exact ⟨ciphertext, sealed, by rw [seal_eq _ _ fits, sealed]⟩

/-- `open` on a nonce and what follows it. -/
theorem open_append (obfuscator : Obfuscator) (nonce : Bytes nonceBytes)
    {ciphertext : List UInt8} (tagged : tagBytes ≤ ciphertext.length) :
    obfuscator.open aead (nonce.toList ++ ciphertext) =
      some (match aead.decrypt obfuscator.openKey nonce [] ciphertext with
        | none => .error .obfuscation
        | some frame => payloadOf frame) := by
  have long : ¬ (nonce.toList ++ ciphertext).length < nonceBytes + tagBytes := by
    rw [List.length_append, nonce.toList_length]
    omega
  unfold Obfuscator.open
  rw [if_neg long, splitBytes_append]
  simp only [Option.bind_eq_bind, Option.bind_some]
  rcases aead.decrypt obfuscator.openKey nonce [] ciphertext with - | frame
  · rfl
  · rfl

/-- What one side sealed, the side that holds the same key opens. -/
theorem open_seal (ideal : aead.Ideal) {sealer opener : Obfuscator}
    (paired : opener.openKey = sealer.sealKey) (draw : SealDraw) {payload : List UInt8}
    (fits : payload.length < 2 ^ 16) :
    ∃ wire, sealer.seal aead draw payload = .ok wire ∧
      opener.open aead wire = some (.ok payload) := by
  obtain ⟨ciphertext, sealed, isWire⟩ := exists_seal ideal sealer draw fits
  have tagged : tagBytes ≤ ciphertext.length := by
    rw [ideal.adds_tag sealed]
    exact Nat.le_add_left _ _
  refine ⟨_, isWire, ?_⟩
  rw [open_append opener draw.nonce tagged, paired, ideal.decrypt_iff.mpr sealed]
  simp only [payloadOf_frameOf draw fits]

/-- The size of a sealed datagram, to the byte. -/
theorem length_seal (ideal : aead.Ideal) {obfuscator : Obfuscator} {draw : SealDraw}
    {payload wire : List UInt8} (done : obfuscator.seal aead draw payload = .ok wire) :
    wire.length = payload.length + envelopeBytes +
      if payload.length > paddedUpToBytes then 0 else draw.padLen := by
  by_cases fits : payload.length < 2 ^ 16
  · obtain ⟨ciphertext, sealed, isWire⟩ := exists_seal ideal obfuscator draw fits
    rw [isWire] at done
    cases done
    rw [List.length_append, draw.nonce.toList_length, ideal.adds_tag sealed, length_frameOf]
    show 24 + _ = _ + 42 + _
    omega
  · rw [seal_too_long obfuscator draw (Nat.not_lt.mp fits)] at done
    cases done

/-- `open` never panics, and what it returns was authenticated under the peer's key. -/
theorem open_inside (ideal : aead.Ideal) (obfuscator : Obfuscator) (wire : List UInt8) :
    obfuscator.open aead wire = some (.error .obfuscation) ∨
      ∃ (nonce : Bytes nonceBytes) (ciphertext before payload after : List UInt8),
        wire = nonce.toList ++ ciphertext ∧
        aead.encrypt obfuscator.openKey nonce [] (before ++ payload ++ after) = some ciphertext ∧
        before.length = lenHeaderBytes ∧ obfuscator.open aead wire = some (.ok payload) := by
  by_cases long : nonceBytes + tagBytes ≤ wire.length
  · obtain ⟨nonce, ciphertext, rfl⟩ : ∃ (nonce : Bytes nonceBytes) (ciphertext : List UInt8),
        wire = nonce.toList ++ ciphertext :=
      ⟨⟨wire.take nonceBytes, by rw [List.length_take]; omega⟩, wire.drop nonceBytes,
        (List.take_append_drop nonceBytes wire).symm⟩
    have tagged : tagBytes ≤ ciphertext.length := by
      rw [List.length_append, nonce.toList_length] at long
      omega
    rw [open_append obfuscator nonce tagged]
    rcases opened : aead.decrypt obfuscator.openKey nonce [] ciphertext with - | frame
    · exact .inl rfl
    · rcases payloadOf_inside frame with refused | ⟨before, payload, after, rfl, header, found⟩
      · exact .inl (congrArg some refused)
      · exact .inr ⟨nonce, ciphertext, before, payload, after, rfl, ideal.decrypt_iff.mp opened,
          header, congrArg some found⟩
  · left
    exact if_pos (Nat.not_le.mp long)

/-- The codec of an invite's datagrams. In either direction what one side seals the other opens; a
payload is refused exactly when its length does not fit the header; a sealed datagram is as large
as its envelope and at most the padding make it; and `open` of any bytes panics on none and
answers with nothing but a part of an authenticated frame. -/
theorem datagram_codec (aead : XChaCha20Poly1305) (ideal : aead.Ideal) (deriveKey : DeriveKey)
    (inviteId : Bytes inviteIdBytes) :
    (∀ (draw : SealDraw) (payload : List UInt8), payload.length ≤ 65535 →
      (∃ wire, (forHost deriveKey inviteId).seal aead draw payload = .ok wire ∧
        (forGuest deriveKey inviteId).open aead wire = some (.ok payload)) ∧
      (∃ wire, (forGuest deriveKey inviteId).seal aead draw payload = .ok wire ∧
        (forHost deriveKey inviteId).open aead wire = some (.ok payload))) ∧
    (∀ (obfuscator : Obfuscator) (draw : SealDraw) (payload : List UInt8),
      (∃ error, obfuscator.seal aead draw payload = .error error) ↔ 65535 < payload.length) ∧
    (∀ (obfuscator : Obfuscator) (draw : SealDraw) (payload wire : List UInt8),
      obfuscator.seal aead draw payload = .ok wire →
        (1200 < payload.length → wire.length = payload.length + 42) ∧
        (payload.length ≤ 1200 → wire.length ≤ payload.length + 42 + obfuscatePaddingMaxBytes) ∧
        (payload.length ≤ mtuUpperBoundBytes.toNat → wire.length ≤ 1452)) ∧
    (∀ (obfuscator : Obfuscator) (wire : List UInt8),
      obfuscator.open aead wire = some (.error .obfuscation) ∨
        ∃ (nonce : Bytes nonceBytes) (ciphertext before payload after : List UInt8),
          wire = nonce.toList ++ ciphertext ∧
          aead.encrypt obfuscator.openKey nonce [] (before ++ payload ++ after) =
            some ciphertext ∧
          before.length = lenHeaderBytes ∧
          obfuscator.open aead wire = some (.ok payload)) := by
  refine ⟨?_, ?_, ?_, open_inside ideal⟩
  · intro draw payload short
    have fits : payload.length < 2 ^ 16 := by omega
    exact ⟨open_seal ideal rfl draw fits, open_seal ideal rfl draw fits⟩
  · intro obfuscator draw payload
    constructor
    · rintro ⟨error, refused⟩
      by_contra short
      obtain ⟨ciphertext, -, done⟩ := exists_seal ideal obfuscator draw
        (show payload.length < 2 ^ 16 by omega)
      rw [done] at refused
      cases refused
    · intro long
      exact ⟨.obfuscation, seal_too_long obfuscator draw (by omega)⟩
  · intro obfuscator draw payload wire done
    have size := length_seal ideal done
    have drawn : draw.padLen ≤ 128 := draw.padLen_le
    rw [show envelopeBytes = 42 from rfl, show paddedUpToBytes = 1200 from rfl] at size
    have bound : mtuUpperBoundBytes.toNat = 1410 := rfl
    refine ⟨?_, ?_, ?_⟩
    · intro large
      rw [if_pos large] at size
      exact size
    · intro small
      rw [if_neg (Nat.not_lt.mpr small)] at size
      rw [size]
      exact Nat.add_le_add_left draw.padLen_le _
    · intro path
      split at size <;> omega

/-- The host's key for the invite of sixteen `0x42`, as `blake3` derives it. -/
def sampleKey : Bytes 32 :=
  ⟨[233, 164, 192, 115, 17, 167, 134, 92, 11, 246, 127, 135, 175, 84, 55, 173, 4, 240, 191, 164,
    60, 240, 13, 230, 101, 160, 230, 113, 140, 194, 0, 92], rfl⟩

/-- What the host draws to seal the two bytes `hi`: no padding. -/
def sampleDraw : SealDraw where
  nonce := ⟨[1, 2, 3, 4, 5, 6, 7, 8, 9, 10, 11, 12, 13, 14, 15, 16, 17, 18, 19, 20, 21, 22, 23,
    24], rfl⟩
  padLen := 0
  padLen_le := by decide
  noise _ := 0

/-- XChaCha20-Poly1305 at that key, nonce and frame. -/
def sampleAead : XChaCha20Poly1305 :=
  XChaCha20Poly1305.knownAt sampleKey sampleDraw.nonce [] [2, 0, 104, 105]
    [249, 121, 55, 29, 219, 75, 217, 213, 243, 191, 84, 175, 53, 45, 213, 90, 90, 252, 102, 253]

/-- The greeting of a host travels to its guest. -/
theorem hi_travels :
    sampleAead.Ideal ∧ ([104, 105] : List UInt8).length ≤ 65535 ∧
      ∃ wire, (forHost (fun _ _ => sampleKey) (List.Vector.replicate 16 0x42)).seal sampleAead
          sampleDraw [104, 105] = .ok wire ∧
        (forGuest (fun _ _ => sampleKey) (List.Vector.replicate 16 0x42)).open sampleAead wire =
          some (.ok [104, 105]) := by
  have ideal : sampleAead.Ideal := XChaCha20Poly1305.knownAt_ideal rfl (by decide)
  exact ⟨ideal, by decide, ((datagram_codec sampleAead ideal (fun _ _ => sampleKey)
    (List.Vector.replicate 16 0x42)).1 sampleDraw [104, 105] (by decide)).1⟩

end Obfuscator

end Lumepeer.Net
