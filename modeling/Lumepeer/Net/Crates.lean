import Lumepeer.Core.License

/-!
# What the net crate takes from other crates

The AEAD of `chacha20poly1305`, the key derivation of `blake3` and the part of
`ed25519_dalek` that the core crate does not use enter as records of functions.
What the code relies on is stated beside each of them.
-/

namespace Lumepeer.Net
open Lumepeer.Lib Lumepeer.Core

/-- `XChaCha20Poly1305::new(key)`: `encrypt` and `decrypt` of a `Payload` with its associated
data. -/
structure XChaCha20Poly1305 where
  encrypt : (key : Bytes 32) → (nonce : Bytes 24) → (aad msg : List UInt8) → Option (List UInt8)
  decrypt : (key : Bytes 32) → (nonce : Bytes 24) → (aad msg : List UInt8) → Option (List UInt8)

/-- The AEAD as its users see it: it takes every message below 256 GiB, adds the 16 bytes of its
tag, and opens under a key exactly what that key sealed. -/
structure XChaCha20Poly1305.Ideal (aead : XChaCha20Poly1305) : Prop where
  accepts : ∀ key nonce aad msg, msg.length < 2 ^ 38 - 64 →
    ∃ sealed, aead.encrypt key nonce aad msg = some sealed
  adds_tag : ∀ {key nonce aad msg sealed}, aead.encrypt key nonce aad msg = some sealed →
    sealed.length = msg.length + 16
  decrypt_iff : ∀ {key nonce aad msg sealed},
    aead.decrypt key nonce aad sealed = some msg ↔ aead.encrypt key nonce aad msg = some sealed

/-- A byte of associated data is authenticated too: what was sealed with one does not open with
another. -/
def XChaCha20Poly1305.BindsByte (aead : XChaCha20Poly1305) : Prop :=
  ∀ {key nonce byte byte' msg sealed}, aead.encrypt key nonce [byte] msg = some sealed →
    byte' ≠ byte → aead.decrypt key nonce [byte'] sealed = none

/-- `blake3::derive_key(context, key_material)`. -/
abbrev DeriveKey := (context : String) → (material : List UInt8) → Bytes 32

/-- `ed25519_dalek` with `VerifyingKey::from_bytes` and `Verifier::verify`. -/
structure Dalek extends Ed25519 where
  fromBytes : Bytes 32 → Option VerifyingKey
  verify : VerifyingKey → (message : List UInt8) → (signature : Bytes 64) → Bool

/-- Signatures of different messages are different: no signature verifies for two messages under
one key. -/
def Dalek.Binding (ed : Dalek) : Prop :=
  ∀ {key message message' signature}, ed.verify key message signature = true →
    ed.verify key message' signature = true → message = message'

namespace XChaCha20Poly1305

/-- The AEAD as it is known at one message; every other message is sealed in the clear, tagged with
the byte of its associated data. -/
def knownAt (key : Bytes 32) (nonce : Bytes 24) (aad msg sealed : List UInt8) :
    XChaCha20Poly1305 where
  encrypt key' nonce' aad' msg' :=
    some (if (key', nonce', aad', msg') = (key, nonce, aad, msg) then sealed
      else msg' ++ List.replicate 16 (aad'.headD 0))
  decrypt key' nonce' aad' sealed' :=
    let msg' := sealed'.take (sealed'.length - 16)
    if (key', nonce', aad', sealed') = (key, nonce, aad, sealed) then some msg
    else if (key', nonce', aad', msg') ≠ (key, nonce, aad, msg) ∧
        sealed' = msg' ++ List.replicate 16 (aad'.headD 0) then some msg'
    else none

section
variable {key : Bytes 32} {nonce : Bytes 24} {aad msg sealed : List UInt8}

/-- The last two bytes tell a real tag from the one given in the clear. -/
theorem ne_append_replicate {bytes : List UInt8}
    (differ : bytes.reverse.head? ≠ bytes.reverse.tail.head?) (other : List UInt8) (byte : UInt8) :
    bytes ≠ other ++ List.replicate 16 byte := by
  rintro rfl
  simp [List.replicate_succ] at differ

theorem eq_of_append_replicate {other other' : List UInt8} {byte byte' : UInt8}
    (same : other ++ List.replicate 16 byte = other' ++ List.replicate 16 byte') :
    byte = byte' := by
  have last := congrArg (fun bytes => bytes.reverse.head?) same
  simpa [List.replicate_succ] using last

theorem knownAt_ideal (length : sealed.length = msg.length + 16)
    (differ : sealed.reverse.head? ≠ sealed.reverse.tail.head?) :
    (knownAt key nonce aad msg sealed).Ideal where
  accepts _ _ _ _ _ := ⟨_, rfl⟩
  adds_tag := by
    intro key' nonce' aad' msg' sealed' done
    cases done
    split
    · rename_i known
      cases known
      exact length
    · simp
  decrypt_iff := by
    intro key' nonce' aad' msg' sealed'
    have takeLeft (other : List UInt8) (byte : UInt8) :
        (other ++ List.replicate 16 byte).take
          ((other ++ List.replicate 16 byte).length - 16) = other := by simp
    simp only [knownAt, Option.some.injEq]
    by_cases known : (key', nonce', aad', sealed') = (key, nonce, aad, sealed)
    · rw [if_pos known]
      cases known
      constructor
      · intro same
        cases same
        rw [if_pos rfl]
      · intro made
        split at made
        · rename_i isMsg
          cases isMsg
          rfl
        · exact absurd made.symm (ne_append_replicate differ _ _)
    · rw [if_neg known]
      constructor
      · intro opened
        split at opened
        · rename_i plain
          cases opened
          rw [if_neg plain.1]
          exact plain.2.symm
        · cases opened
      · intro made
        split at made
        · rename_i isMsg
          cases isMsg
          exact absurd (by rw [made]) known
        · rename_i notMsg
          subst made
          rw [takeLeft, if_pos ⟨notMsg, rfl⟩]

theorem knownAt_bindsByte (differ : sealed.reverse.head? ≠ sealed.reverse.tail.head?) :
    (knownAt key nonce aad msg sealed).BindsByte := by
  intro key' nonce' byte byte' msg' sealed' made other
  simp only [knownAt, Option.some.injEq] at made ⊢
  split at made
  · rename_i known
    cases known
    subst made
    split
    · rename_i same
      exact absurd (List.cons.inj (Prod.mk.inj (Prod.mk.inj (Prod.mk.inj same).2).2).1).1 other
    · exact if_neg fun plain => ne_append_replicate differ _ _ plain.2
  · subst made
    split
    · rename_i known
      have same := (Prod.mk.inj (Prod.mk.inj (Prod.mk.inj known).2).2).2
      exact absurd same.symm (ne_append_replicate differ _ _)
    · exact if_neg fun plain => other (eq_of_append_replicate plain.2).symm

end

end XChaCha20Poly1305

end Lumepeer.Net
