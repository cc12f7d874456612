import Lumepeer.Core.License

/-!
# The licence token codec

Reader and writer of the token are separate functions over one layout.
`RawFields` is that layout before the plan byte and the version are judged:
`signed_prefix` writes one, the cursor reads one off, and every byte string of
the right length is one. Both round trips and the absence of a panic follow.
-/

namespace Lumepeer.Core
open Lumepeer.Lib

namespace Cursor

/-- A cursor that has read `done` and still has `rest` before it. -/
def between (done rest : List UInt8) : Cursor := ⟨done ++ rest, done.length⟩

/-- A read that succeeds hands its value and the moved cursor on. -/
theorem bind_read {α β : Type} {read : Option (α × Cursor)} {value : α} {next : Cursor}
    (reads : read = some (value, next)) (andThen : α × Cursor → Option β) :
    (read >>= andThen) = andThen (value, next) := by
  rw [reads]
  rfl

theorem take_between (done rest : List UInt8) {n : Nat} (out : Bytes n) :
    (between done (out.toList ++ rest)).take n = some (out, between (done ++ out.toList) rest) := by
  have fits : done.length + n ≤ (done ++ (out.toList ++ rest)).length := by simp
  have read : ((done ++ (out.toList ++ rest)).drop done.length).take n = out.toList := by
    rw [List.drop_left, List.take_left' out.toList_length]
  rw [take, between, dif_pos fits]
  refine congrArg some (Prod.ext (Subtype.ext read) ?_)
  simp [between, List.append_assoc]

theorem u8_between (done rest : List UInt8) (value : UInt8) :
    (between done (value :: rest)).u8 = some (value, between (done ++ [value]) rest) := by
  have taken := take_between done rest (⟨[value], rfl⟩ : Bytes 1)
  simp only [List.Vector.toList, List.singleton_append] at taken
  rw [u8, taken]
  rfl

theorem u32_between (done rest : List UInt8) (value : UInt32) :
    (between done (toBeBytes32 value ++ rest)).u32 =
      some (value, between (done ++ toBeBytes32 value) rest) := by
  have taken := take_between done rest (⟨toBeBytes32 value, length_toBeBytes32 value⟩ : Bytes 4)
  simp only [List.Vector.toList] at taken
  rw [u32, taken]
  exact congrArg (fun read => some (read, _)) (fromBeBytes32_toBeBytes32 value)

theorem u64_between (done rest : List UInt8) (value : UInt64) :
    (between done (toBeBytes64 value ++ rest)).u64 =
      some (value, between (done ++ toBeBytes64 value) rest) := by
  have taken := take_between done rest (⟨toBeBytes64 value, length_toBeBytes64 value⟩ : Bytes 8)
  simp only [List.Vector.toList] at taken
  rw [u64, taken]
  exact congrArg (fun read => some (read, _)) (fromBeBytes64_toBeBytes64 value)

end Cursor

/-- The fields of a signed prefix as they lie in it, the plan still a byte. -/
structure RawFields where
  version : UInt8
  keyId : UInt32
  licenseId : Bytes 16
  planByte : UInt8
  deviceId : Bytes 16
  issuedAt : UInt64
  notBefore : UInt64
  expiresAt : UInt64
  features : UInt64
  payloadHash : Bytes 32

namespace RawFields

/-- The bytes of the fields, in the order of the layout. -/
def bytes (raw : RawFields) : List UInt8 :=
  raw.version :: (toBeBytes32 raw.keyId ++ (raw.licenseId.toList ++ (raw.planByte ::
    (raw.deviceId.toList ++ (toBeBytes64 raw.issuedAt ++ (toBeBytes64 raw.notBefore ++
      (toBeBytes64 raw.expiresAt ++ (toBeBytes64 raw.features ++ (raw.payloadHash.toList ++ [])))))))))

/-- The token the fields spell under `plan`. -/
def token (raw : RawFields) (plan : Plan) (signature : Bytes 64) : LicenseToken :=
  { version := raw.version, keyId := raw.keyId, licenseId := raw.licenseId, plan
    deviceId := raw.deviceId, issuedAt := raw.issuedAt, notBefore := raw.notBefore
    expiresAt := raw.expiresAt, features := raw.features, payloadHash := raw.payloadHash
    signature }

/-- A byte string splits into its first `n` bytes and the rest. -/
theorem exists_bytes_append {n m : Nat} {source : List UInt8} (sized : source.length = n + m) :
    ∃ (first : Bytes n) (rest : List UInt8), source = first.toList ++ rest ∧ rest.length = m :=
  ⟨⟨source.take n, by simp [sized]⟩, source.drop n, (List.take_append_drop n source).symm,
    by simp [sized]⟩

theorem exists_cons {m : Nat} {source : List UInt8} (sized : source.length = m + 1) :
    ∃ (first : UInt8) (rest : List UInt8), source = first :: rest ∧ rest.length = m := by
  obtain ⟨first, rest, rfl⟩ := List.exists_cons_of_length_eq_add_one sized
  exact ⟨first, rest, rfl, Nat.succ.inj sized⟩

theorem exists_u32_append {m : Nat} {source : List UInt8} (sized : source.length = 4 + m) :
    ∃ (word : UInt32) (rest : List UInt8), source = toBeBytes32 word ++ rest ∧ rest.length = m := by
  obtain ⟨first, rest, rfl, short⟩ := exists_bytes_append sized
  exact ⟨fromBeBytes32 first, rest, by rw [toBeBytes32_fromBeBytes32], short⟩

theorem exists_u64_append {m : Nat} {source : List UInt8} (sized : source.length = 8 + m) :
    ∃ (word : UInt64) (rest : List UInt8), source = toBeBytes64 word ++ rest ∧ rest.length = m := by
  obtain ⟨first, rest, rfl, short⟩ := exists_bytes_append sized
  exact ⟨fromBeBytes64 first, rest, by rw [toBeBytes64_fromBeBytes64], short⟩

/-- Every byte string of the length of a signed prefix is the layout of some fields. -/
theorem exists_bytes_eq {signed : List UInt8} (sized : signed.length = signedPrefixLen) :
    ∃ raw : RawFields, signed = raw.bytes := by
  obtain ⟨version, rest, rfl, after1⟩ := @exists_cons 101 _ sized
  obtain ⟨keyId, rest, rfl, after5⟩ := @exists_u32_append 97 _ after1
  obtain ⟨licenseId, rest, rfl, after21⟩ := @exists_bytes_append 16 81 _ after5
  obtain ⟨planByte, rest, rfl, after22⟩ := @exists_cons 80 _ after21
  obtain ⟨deviceId, rest, rfl, after38⟩ := @exists_bytes_append 16 64 _ after22
  obtain ⟨issuedAt, rest, rfl, after46⟩ := @exists_u64_append 56 _ after38
  obtain ⟨notBefore, rest, rfl, after54⟩ := @exists_u64_append 48 _ after46
  obtain ⟨expiresAt, rest, rfl, after62⟩ := @exists_u64_append 40 _ after54
  obtain ⟨features, rest, rfl, after70⟩ := @exists_u64_append 32 _ after62
  obtain ⟨payloadHash, rest, rfl, after102⟩ := @exists_bytes_append 32 0 _ after70
  obtain rfl := List.eq_nil_of_length_eq_zero after102
  exact ⟨⟨version, keyId, licenseId, planByte, deviceId, issuedAt, notBefore, expiresAt, features,
    payloadHash⟩, rfl⟩

theorem length_bytes (raw : RawFields) : raw.bytes.length = signedPrefixLen := by
  simp [bytes, signedPrefixLen]

end RawFields

/-- The fields `signed_prefix` writes. -/
def LicenseToken.raw (token : LicenseToken) : RawFields :=
  { version := token.version, keyId := token.keyId, licenseId := token.licenseId
    planByte := token.plan.toWire, deviceId := token.deviceId, issuedAt := token.issuedAt
    notBefore := token.notBefore, expiresAt := token.expiresAt, features := token.features
    payloadHash := token.payloadHash }

namespace LicenseToken

theorem signedPrefix_eq_raw (token : LicenseToken) : token.signedPrefix = token.raw.bytes := by
  simp [signedPrefix, RawFields.bytes, raw]

theorem length_signedPrefix (token : LicenseToken) : token.signedPrefix.length = signedPrefixLen := by
  rw [signedPrefix_eq_raw, RawFields.length_bytes]

/-- The cursor reads the fields off in the order they were written, and never runs out. -/
theorem parseFields_bytes (raw : RawFields) (signature : Bytes 64) :
    parseFields raw.bytes signature = some
      (if raw.version ≠ tokenVersion then
        .error (.licenseDenied "unsupported license token version")
      else match Plan.fromWire raw.planByte with
        | none => .error (.licenseDenied "unknown plan in license token")
        | some plan => .ok (raw.token plan signature)) := by
  -- The cursor stands between what it has read and what it has not, field by field.
  refine (Cursor.bind_read (Cursor.u8_between [] _ raw.version) _).trans ?_
  by_cases supported : raw.version = tokenVersion
  · rw [if_neg (not_not.mpr supported)]
    refine (if_neg (not_not.mpr supported)).trans ?_
    refine (Cursor.bind_read (Cursor.u32_between _ _ raw.keyId) _).trans ?_
    refine (Cursor.bind_read (Cursor.take_between _ _ raw.licenseId) _).trans ?_
    refine (Cursor.bind_read (Cursor.u8_between _ _ raw.planByte) _).trans ?_
    dsimp only
    cases Plan.fromWire raw.planByte with
    | none => rfl
    | some plan =>
        refine (Cursor.bind_read (Cursor.take_between _ _ raw.deviceId) _).trans ?_
        refine (Cursor.bind_read (Cursor.u64_between _ _ raw.issuedAt) _).trans ?_
        refine (Cursor.bind_read (Cursor.u64_between _ _ raw.notBefore) _).trans ?_
        refine (Cursor.bind_read (Cursor.u64_between _ _ raw.expiresAt) _).trans ?_
        refine (Cursor.bind_read (Cursor.u64_between _ _ raw.features) _).trans ?_
        exact Cursor.bind_read (Cursor.take_between _ [] raw.payloadHash) _
  · rw [if_pos supported]
    exact if_pos supported

/-- A token accepted with its fields spells the signed bytes. -/
theorem raw_token {raw : RawFields} {plan : Plan} (read : Plan.fromWire raw.planByte = some plan)
    (signature : Bytes 64) : (raw.token plan signature).raw = raw := by
  simp [LicenseToken.raw, RawFields.token, Plan.toWire_of_fromWire read]

/-- What `parse_and_verify` finds at the end of a token: its length, its signature and its fields. -/
theorem parseAndVerify_append (ed : Ed25519) (signed : List UInt8) (signature : Bytes 64)
    (key : ed.VerifyingKey) (sized : signed.length = signedPrefixLen) :
    parseAndVerify ed (signed ++ signature.toList) key =
      if ed.verifyStrict key signed signature then parseFields signed signature
      else some (.error (.licenseDenied "invalid license signature")) := by
  have whole : (signed ++ signature.toList).length = tokenLen := by
    simp [sized, tokenLen]
  have first : (signed ++ signature.toList).take signedPrefixLen = signed := List.take_left' sized
  have last : (signed ++ signature.toList).drop signedPrefixLen = signature.toList :=
    List.drop_left' sized
  have isSignature : (⟨(signed ++ signature.toList).drop signedPrefixLen,
      by simp [whole, tokenLen, signedPrefixLen]⟩ : Bytes 64) = signature := Subtype.ext last
  rw [parseAndVerify, dif_pos whole]
  simp only [first, isSignature]

/-- Every byte string of the length of a token is a signed prefix and a signature. -/
theorem exists_token_split {bytes : List UInt8} (sized : bytes.length = tokenLen) :
    ∃ (raw : RawFields) (signature : Bytes 64), bytes = raw.bytes ++ signature.toList := by
  have prefixSized : (bytes.take signedPrefixLen).length = signedPrefixLen := by
    simp [sized, tokenLen]
  obtain ⟨raw, isRaw⟩ := RawFields.exists_bytes_eq prefixSized
  have tailSized : (bytes.drop signedPrefixLen).length = 64 := by
    simp [sized, tokenLen, signedPrefixLen]
  refine ⟨raw, ⟨bytes.drop signedPrefixLen, tailSized⟩, ?_⟩
  rw [← isRaw]
  exact (List.take_append_drop signedPrefixLen bytes).symm

/-- A signed token of the supported version parses back to itself. -/
theorem parseAndVerify_encode {ed : Ed25519} (strict : ed.Exact) {token : LicenseToken}
    {key : ed.SigningKey} (supported : token.version = tokenVersion)
    (signed : token.signature = ed.sign key token.signedPrefix) :
    parseAndVerify ed token.encode (ed.verifyingKey key) = some (.ok token) := by
  have accepted : ed.verifyStrict (ed.verifyingKey key) token.signedPrefix token.signature = true :=
    (strict key token.signedPrefix token.signature).mpr signed
  rw [encode, parseAndVerify_append ed _ _ _ token.length_signedPrefix, if_pos accepted,
    signedPrefix_eq_raw, parseFields_bytes]
  have isVersion : ¬ token.raw.version ≠ tokenVersion := not_not.mpr supported
  have isPlan : Plan.fromWire token.raw.planByte = some token.plan :=
    Plan.fromWire_toWire token.plan
  rw [if_neg isVersion, isPlan]
  rfl

/-- What `parse_and_verify` accepts is the encoding of the token it returns. -/
theorem encode_of_parseAndVerify {ed : Ed25519} {bytes : List UInt8} {key : ed.VerifyingKey}
    {token : LicenseToken} (parsed : parseAndVerify ed bytes key = some (.ok token)) :
    token.encode = bytes ∧ token.signedPrefix = bytes.take signedPrefixLen ∧
      ed.verifyStrict key (bytes.take signedPrefixLen) token.signature = true := by
  by_cases sized : bytes.length = tokenLen
  · obtain ⟨fields, signature, rfl⟩ := exists_token_split sized
    rw [parseAndVerify_append ed _ _ _ fields.length_bytes] at parsed
    split at parsed
    · rename_i accepted
      rw [parseFields_bytes] at parsed
      split at parsed
      · cases parsed
      · cases read : Plan.fromWire fields.planByte with
        | none => simp [read] at parsed
        | some plan =>
            simp only [read, Option.some.injEq, Except.ok.injEq] at parsed
            subst parsed
            have isPrefix : (fields.token plan signature).signedPrefix = fields.bytes := by
              rw [signedPrefix_eq_raw, raw_token read]
            have taken : (fields.bytes ++ signature.toList).take signedPrefixLen = fields.bytes :=
              List.take_left' fields.length_bytes
            rw [encode, isPrefix, taken]
            exact ⟨rfl, rfl, accepted⟩
    · cases parsed
  · rw [parseAndVerify, dif_neg sized] at parsed
    cases parsed

/-- No read of the cursor leaves the signed prefix. -/
theorem parseAndVerify_ne_none (ed : Ed25519) (bytes : List UInt8) (key : ed.VerifyingKey) :
    parseAndVerify ed bytes key ≠ none := by
  by_cases sized : bytes.length = tokenLen
  · obtain ⟨fields, signature, rfl⟩ := exists_token_split sized
    rw [parseAndVerify_append ed _ _ _ fields.length_bytes, parseFields_bytes]
    split <;> simp
  · rw [parseAndVerify, dif_neg sized]
    simp

/-- The codec of the licence token: a signed token of the supported version survives encoding
and parsing, every accepted byte string is the encoding of the token it gave, whose signed
prefix is the range the signature was checked over, and no byte string makes the cursor read
past the signed prefix. -/
theorem token_codec_exact (ed : Ed25519) (strict : ed.Exact) :
    (∀ (token : LicenseToken) (key : ed.SigningKey), token.version = tokenVersion →
      token.signature = ed.sign key token.signedPrefix →
        parseAndVerify ed token.encode (ed.verifyingKey key) = some (.ok token)) ∧
    (∀ (bytes : List UInt8) (key : ed.VerifyingKey) (token : LicenseToken),
      parseAndVerify ed bytes key = some (.ok token) →
        token.encode = bytes ∧ token.signedPrefix = bytes.take signedPrefixLen ∧
          ed.verifyStrict key (bytes.take signedPrefixLen) token.signature = true) ∧
    (∀ (bytes : List UInt8) (key : ed.VerifyingKey), parseAndVerify ed bytes key ≠ none) :=
  ⟨fun _ _ supported signed => parseAndVerify_encode strict supported signed,
    fun _ _ _ parsed => encode_of_parseAndVerify parsed,
    fun bytes key => parseAndVerify_ne_none ed bytes key⟩

/-- The Pro token of `a_signed_token_round_trips_and_verifies` (`license.rs:499-506`) with the
Ed25519 signature of its prefix under the test key. -/
def proToken : LicenseToken :=
  { version := tokenVersion, keyId := 1, licenseId := List.Vector.replicate 16 7, plan := .pro
    deviceId := List.Vector.replicate 16 9, issuedAt := 1000, notBefore := 1000, expiresAt := 2000
    features := 0, payloadHash := List.Vector.replicate 32 0
    signature := ⟨[21, 79, 216, 220, 115, 168, 66, 125, 87, 228, 113, 71, 95, 48, 220, 34,
      248, 247, 20, 175, 12, 244, 205, 109, 162, 197, 190, 122, 145, 156, 199, 157,
      229, 99, 51, 164, 233, 129, 170, 100, 202, 89, 202, 161, 66, 125, 108, 126,
      224, 11, 145, 137, 195, 64, 183, 22, 251, 247, 22, 157, 107, 182, 18, 14], rfl⟩ }

/-- Ed25519 under the test key alone, known at the one message `proToken` signs. -/
def testKeyEd : Ed25519 where
  SigningKey := Unit
  VerifyingKey := Unit
  verifyingKey := id
  sign _ message :=
    if message = proToken.signedPrefix then proToken.signature else List.Vector.replicate 64 0
  verifyStrict _ message signature :=
    signature ==
      if message = proToken.signedPrefix then proToken.signature else List.Vector.replicate 64 0

theorem testKeyEd_exact : testKeyEd.Exact := by
  intro key message signature
  exact beq_iff_eq

/-- The test token is accepted and read back. -/
theorem proToken_codec :
    testKeyEd.Exact ∧ proToken.version = tokenVersion ∧
      parseAndVerify testKeyEd proToken.encode () = some (.ok proToken) := by
  have signed : proToken.signature = testKeyEd.sign () proToken.signedPrefix := by
    simp [testKeyEd]
  exact ⟨testKeyEd_exact, rfl,
    (token_codec_exact testKeyEd testKeyEd_exact).1 proToken () rfl signed⟩

end LicenseToken

end Lumepeer.Core
