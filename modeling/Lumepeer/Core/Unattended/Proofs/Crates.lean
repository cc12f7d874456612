import Lumepeer.Core.Unattended

/-!
# What the gate relies on from other crates

`Crates.Lawful` collects the behaviour of `argon2`, `hmac` and `spake2` the
password proof rests on. `sampleCrates` is an instance of it: its PHC string and
Argon2id key are those of the password `correct horse` under the salt
`00 01 … 0f`, and its HMAC-SHA1 tags are those of the secret of RFC 6238 at the
first three time steps.
-/

namespace Lumepeer.Core
open Lumepeer.Lib

/-- The parameters `Argon2::default()` hashes with, at 32 bytes of output. -/
def Argon2Params.default : Argon2Params := ⟨19456, 2, 1, some 32⟩

/-- A PHC string `Argon2::default().hash_password` wrote, taken apart. -/
structure Crates.Wrote (crates : Crates) (parsed : PasswordHash) (salt key : List UInt8) : Prop where
  algorithm : parsed.algorithm = "argon2id"
  version : parsed.version = some 0x13
  params : ∃ params, crates.paramsOf parsed = some params ∧ params.mCost = 19456 ∧
    params.tCost = 2 ∧ params.pCost = 1
  salt : parsed.salt = some salt
  hash : parsed.hash = some key

/-- The documented behaviour of the crates. -/
structure Crates.Lawful (crates : Crates) : Prop where
  /-- `Params::new` takes the default parameters. -/
  newParams : crates.newParams 19456 2 1 32 = some .default
  /-- Argon2id is a function of password and salt with 32 bytes of output. -/
  argon2id : ∀ password salt, ∃ key,
    crates.argon2id .default password salt 32 = some key ∧ key.length = 32
  /-- What `hash_password` wrote reads back as the salt and the Argon2id of the password. -/
  hashPassword : ∀ password salt phc, crates.hashPassword password salt = some phc →
    ∃ parsed key, crates.parseHash phc = some parsed ∧ crates.Wrote parsed salt.toList key ∧
      crates.argon2id .default password salt.toList 32 = some key
  /-- The verifier accepts exactly the passwords with the stored key. -/
  verifyPassword : ∀ parsed salt key, crates.Wrote parsed salt key → ∀ guess,
    crates.verifyPassword guess parsed = true ↔
      crates.argon2id .default guess salt 32 = some key
  /-- Two honest sides under equal identities end with 32-byte keys that are equal exactly if
  their passwords are. -/
  spake2 : ∀ scalarA scalarB passwordA passwordB idA idB, ∃ sharedA sharedB,
    crates.finish (crates.startA scalarA passwordA idA idB).1
      (crates.startB scalarB passwordB idA idB).2 = some sharedA ∧
    crates.finish (crates.startB scalarB passwordB idA idB).1
      (crates.startA scalarA passwordA idA idB).2 = some sharedB ∧
    sharedA.length = 32 ∧ sharedB.length = 32 ∧ (sharedA = sharedB ↔ passwordA = passwordB)
  /-- HMAC takes keys of every length. -/
  hmacSha256 : ∀ key message, (crates.hmacSha256 key message).isSome
  /-- Tags of one message under different 32-byte keys differ. -/
  separates : ∀ keyA keyB message, keyA.length = 32 → keyB.length = 32 →
    crates.hmacSha256 keyA message = crates.hmacSha256 keyB message → keyA = keyB

/-- The PHC string of `correct horse`. -/
def samplePhc : String :=
  "$argon2id$v=19$m=19456,t=2,p=1$AAECAwQFBgcICQoLDA0ODw$0AuQxA+RjPiJeA19Op7DwrFxnfh9xeTU2T6mFj2wThc"

/-- The Argon2id of `correct horse`. -/
def sampleKey : List UInt8 :=
  [208, 11, 144, 196, 15, 145, 140, 248, 137, 120, 13, 125, 58, 158, 195, 194, 177, 113, 157, 248,
    125, 197, 228, 212, 217, 62, 166, 22, 61, 176, 78, 23]

/-- The salt of `samplePhc`. -/
def sampleSalt : Bytes 16 := ⟨[0, 1, 2, 3, 4, 5, 6, 7, 8, 9, 10, 11, 12, 13, 14, 15], rfl⟩

/-- The secret of RFC 6238, `12345678901234567890`. -/
def sampleSecret : Bytes 20 :=
  ⟨[49, 50, 51, 52, 53, 54, 55, 56, 57, 48, 49, 50, 51, 52, 53, 54, 55, 56, 57, 48], rfl⟩

/-- Argon2id, known at `correct horse`. -/
def sampleArgon2id (password salt : List UInt8) : List UInt8 :=
  if password = asBytes "correct horse" ∧ salt = sampleSalt.toList then sampleKey
  else List.replicate 32 0

/-- HMAC-SHA1 under `sampleSecret`, known at the counters 0, 1 and 2. -/
def sampleHmacSha1 (key message : List UInt8) : Bytes 20 :=
  if key = sampleSecret.toList ∧ message = [0, 0, 0, 0, 0, 0, 0, 0] then
    ⟨[204, 147, 207, 24, 80, 141, 148, 147, 76, 100, 182, 93, 139, 167, 102, 127, 183, 205, 228,
      176], rfl⟩
  else if key = sampleSecret.toList ∧ message = [0, 0, 0, 0, 0, 0, 0, 1] then
    ⟨[117, 164, 138, 25, 212, 203, 225, 0, 100, 78, 138, 193, 57, 126, 234, 116, 122, 45, 51, 171],
      rfl⟩
  else if key = sampleSecret.toList ∧ message = [0, 0, 0, 0, 0, 0, 0, 2] then
    ⟨[11, 172, 183, 250, 8, 47, 239, 48, 120, 34, 17, 147, 139, 193, 197, 231, 4, 22, 255, 68],
      rfl⟩
  else List.Vector.replicate 20 0

/-- Crates that know one password and one second factor. The key agreement compares the two
passwords and the tag of a message is its key. -/
def sampleCrates : Crates where
  hmacSha1 key message := some (sampleHmacSha1 key message)
  hmacSha256 key _ := some ⟨(key ++ List.replicate 32 0).take 32, by simp⟩
  parseHash phc :=
    if phc = samplePhc then
      some ⟨"argon2id", some 0x13, [("m", "19456"), ("t", "2"), ("p", "1")],
        some sampleSalt.toList, some sampleKey⟩
    else none
  paramsOf _ := some .default
  newParams mCost tCost pCost len := some ⟨mCost, tCost, pCost, some len⟩
  hashPassword password salt :=
    if password = asBytes "correct horse" ∧ salt = sampleSalt then some samplePhc else none
  verifyPassword guess parsed := parsed.hash == some (sampleArgon2id guess (parsed.salt.getD []))
  argon2id _ password salt _ := some (sampleArgon2id password salt)
  Spake := Bool × List UInt8
  startA _ password _ _ := ((true, password), password)
  startB _ password _ _ := ((false, password), password)
  finish side message :=
    some (List.replicate 32 (if side.2 = message then 0 else if side.1 then 1 else 2))

theorem length_sampleArgon2id (password salt : List UInt8) :
    (sampleArgon2id password salt).length = 32 := by
  unfold sampleArgon2id
  split <;> rfl

theorem sampleCrates_lawful : sampleCrates.Lawful where
  newParams := rfl
  argon2id password salt := ⟨_, rfl, length_sampleArgon2id password salt⟩
  hashPassword := by
    intro password salt phc wrote
    simp only [sampleCrates, Option.ite_none_right_eq_some, Option.some.injEq] at wrote
    obtain ⟨⟨rfl, rfl⟩, rfl⟩ := wrote
    refine ⟨_, sampleKey, rfl, ⟨rfl, rfl, ⟨_, rfl, rfl, rfl, rfl⟩, rfl, rfl⟩, ?_⟩
    simp [sampleCrates, sampleArgon2id]
  verifyPassword := by
    intro parsed salt key wrote guess
    have accepts : sampleCrates.verifyPassword guess parsed =
        (some key == some (sampleArgon2id guess salt)) := by
      show (parsed.hash == some (sampleArgon2id guess (parsed.salt.getD []))) = _
      rw [wrote.salt, wrote.hash, Option.getD_some]
    rw [accepts, beq_iff_eq]
    exact eq_comm
  spake2 := by
    intro scalarA scalarB passwordA passwordB idA idB
    refine ⟨_, _, rfl, rfl, by simp, by simp, ?_⟩
    by_cases same : passwordA = passwordB
    · simp [sampleCrates, same]
    · simp [sampleCrates, same, Ne.symm same]
  hmacSha256 key message := rfl
  separates := by
    intro keyA keyB message sizeA sizeB same
    have tags : (keyA ++ List.replicate 32 0).take 32 = (keyB ++ List.replicate 32 0).take 32 :=
      congrArg Subtype.val (Option.some.inj same)
    rw [List.take_left' sizeA, List.take_left' sizeB] at tags
    exact tags

end Lumepeer.Core
