import Lumepeer.Core.Clipboard
import Lumepeer.Core.Wire.Proofs.Codec

/-!
# Which payloads fit a control frame

The limits of a payload are set field by field and the frame bound for the
whole envelope. The size of an envelope is counted from the sizes of its
fields; for most kinds the limits leave room, for a clipboard text and for a
cursor the payload alone may fill the frame.
-/

namespace Lumepeer.Core
open Lumepeer.Lib

@[simp] theorem malformedIf_eq_ok {bad : Bool} : malformedIf bad = .ok () ↔ bad = false := by
  cases bad <;> simp [malformedIf]

@[simp] theorem malformedIf_bind_eq_ok {bad : Bool} {next : Unit → Except CoreError Unit} :
    (malformedIf bad >>= next) = .ok () ↔ bad = false ∧ next () = .ok () := by
  cases bad
  · simp only [true_and]
    exact Iff.rfl
  · simp only [Bool.true_eq_false, false_and, iff_false]
    exact nofun

theorem lengths_of_checkManifest {name : String} {dir : Option String}
    {entries : List ManifestEntry} (limits : checkManifest name dir entries = .ok ()) :
    (asBytes name).length ≤ 255 ∧ (∀ path ∈ dir, (asBytes path).length ≤ 4096) ∧
      entries.length ≤ 200 ∧ ∀ entry ∈ entries, (asBytes entry.path).length ≤ 255 := by
  simp only [checkManifest, malformedIf_bind_eq_ok, malformedIf_eq_ok, decide_eq_false_iff_not,
    Bool.or_eq_false_iff, Nat.not_lt, List.any_eq_false] at limits
  obtain ⟨few, ⟨-, shortName⟩, shortDir, entriesWithin⟩ := limits
  refine ⟨shortName, ?_, few, ?_⟩
  · rintro path ⟨⟩
    simp only [Option.any_some, Bool.or_eq_false_iff, decide_eq_false_iff_not, Nat.not_lt]
      at shortDir
    exact shortDir.2
  · intro entry member
    have within := entriesWithin entry member
    simp only [Bool.or_eq_true, decide_eq_true_eq, not_or, Nat.not_lt] at within
    exact within.1.1.2

theorem lengths_of_checkFileOp {op : FileOp} (limits : checkFileOp op = .ok ()) :
    (asBytes op.path).length ≤ 4096 ∧
      ∀ path name, op = .rename path name → (asBytes name).length ≤ 255 := by
  have checked : ∀ text most, ((asBytes text).isEmpty || decide ((asBytes text).length > most)) = false →
      (asBytes text).length ≤ most := by
    intro text most passed
    simp only [Bool.or_eq_false_iff, decide_eq_false_iff_not, Nat.not_lt] at passed
    exact passed.2
  cases op with
  | makeDir path => exact ⟨checked path _ (malformedIf_eq_ok.mp limits), nofun⟩
  | rename path name =>
      obtain ⟨shortName, shortPath⟩ := malformedIf_bind_eq_ok.mp limits
      refine ⟨checked path _ (malformedIf_eq_ok.mp shortPath), ?_⟩
      rintro _ _ ⟨⟩
      exact checked name _ shortName
  | delete path => exact ⟨checked path _ (malformedIf_eq_ok.mp limits), nofun⟩

namespace Wire
open Lumepeer.Lib.Codec

theorem length_direction (value : Direction) : (direction.encode value).length = 1 := by
  cases value <;> rfl

theorem length_dirListRefusal (value : DirListRefusal) :
    (dirListRefusal.encode value).length = 1 := by
  cases value <;> rfl

theorem length_displayModeUnavailableReason (value : DisplayModeUnavailableReason) :
    (displayModeUnavailableReason.encode value).length = 1 := by
  cases value <;> rfl

theorem length_manifestEntry_le {entry : ManifestEntry}
    (short : (asBytes entry.path).length ≤ 255) : (manifestEntry.encode entry).length ≤ 276 := by
  have path := length_string_le short
  have size := length_u64_le entry.size
  have flag := length_bool entry.isDir
  show ((Codec.pair .string (.pair .u64 .bool)).encode _).length ≤ _
  rw [length_pair, length_pair]
  omega

theorem length_dirEntry_le {entry : DirEntry} (short : (asBytes entry.name).length ≤ 255) :
    (dirEntry.encode entry).length ≤ 286 := by
  have name := length_string_le short
  have size := length_u64_le entry.size
  have flag := length_bool entry.isDir
  have modified := length_u64_le entry.modifiedUnix
  show ((Codec.pair .string (.pair .u64 (.pair .bool .u64))).encode _).length ≤ _
  rw [length_pair, length_pair, length_pair]
  omega

theorem length_clipboardFileEntry_le {entry : ClipboardFileEntry}
    (short : (asBytes entry.name).length ≤ 255) :
    (clipboardFileEntry.encode entry).length ≤ 275 := by
  have name := length_string_le short
  have size := length_u64_le entry.size
  show ((Codec.pair .string .u64).encode _).length ≤ _
  rw [length_pair]
  omega

theorem length_monitorInfo_le (monitor : MonitorInfo) : (monitorInfo.encode monitor).length ≤ 16 := by
  have id := length_u32_le monitor.id
  have width := length_u32_le monitor.width
  have height := length_u32_le monitor.height
  have flag := length_bool monitor.primary
  show ((Codec.pair .u32 (.pair .u32 (.pair .u32 .bool))).encode _).length ≤ _
  rw [length_pair, length_pair, length_pair]
  omega

theorem length_displayModeInfo_le (mode : DisplayModeInfo) :
    (displayModeInfo.encode mode).length ≤ 20 := by
  have id := length_u32_le mode.id
  have width := length_u32_le mode.width
  have height := length_u32_le mode.height
  have refresh := length_u32_le mode.refreshHz
  show ((Codec.pair .u32 (.pair .u32 (.pair .u32 .u32))).encode _).length ≤ _
  rw [length_pair, length_pair, length_pair]
  omega

theorem length_cursorShapeData {shape : CursorShapeData} (short : shape.rgba.length < 2 ^ 64) :
    (cursorShapeData.encode shape).length =
      varintLen shape.width.toNat + varintLen shape.height.toNat
        + varintLen shape.hotspotX.toNat + varintLen shape.hotspotY.toNat
        + varintLen shape.rgba.length + shape.rgba.length := by
  show ((Codec.pair .u16 (.pair .u16 (.pair .u16 (.pair .u16 .bytes)))).encode _).length = _
  rw [length_pair, length_pair, length_pair, length_pair, length_u16, length_u16, length_u16,
    length_u16, length_bytes short]
  omega

/-- The envelope around a kind: session id, direction, sequence number and an empty body. -/
theorem length_messageEnvelope {envelope : MessageEnvelope} (empty : envelope.body = []) :
    (messageEnvelope.encode envelope).length =
      18 + varintLen envelope.seq.toNat + (messageKind.encode envelope.kind).length := by
  show ((Codec.pair (.array 16) (.pair direction (.pair .u64 (.pair messageKind .bytes)))).encode
    _).length = _
  rw [length_pair, length_pair, length_pair, length_pair, length_array, length_direction,
    length_u64, empty]
  have body : (Codec.bytes.encode []).length = 1 := rfl
  rw [body]
  omega

theorem length_chat_le {text : String} (short : (asBytes text).length ≤ 4096) :
    (messageKind.encode (.chat text)).length ≤ 4107 := by
  have text := length_string_le short
  show (19 :: Codec.string.encode _).length ≤ _
  rw [List.length_cons]
  omega

theorem length_monitorsList_le {monitors : List MonitorInfo} (few : monitors.length ≤ 8) :
    (messageKind.encode (.monitorsList monitors)).length ≤ 139 := by
  have all := length_vec_le monitorInfo_ne_nil monitors fun monitor _ =>
    length_monitorInfo_le monitor
  show (22 :: (Codec.vec monitorInfo monitorInfo_ne_nil).encode _).length ≤ _
  rw [List.length_cons]
  omega

theorem length_displayModesList_le {modes : List DisplayModeInfo}
    {reason : Option DisplayModeUnavailableReason} (few : modes.length ≤ 128) :
    (messageKind.encode (.displayModesList modes reason)).length ≤ 2573 := by
  have all := length_vec_le displayModeInfo_ne_nil modes fun mode _ =>
    length_displayModeInfo_le mode
  have why := length_option_le reason fun given _ =>
    (length_displayModeUnavailableReason given).le
  show (41 :: (Codec.pair (.vec displayModeInfo displayModeInfo_ne_nil)
    (.option displayModeUnavailableReason)).encode _).length ≤ _
  rw [List.length_cons, length_pair]
  omega

theorem length_dirListResponse_le {entries : List DirEntry} {truncated : Bool}
    {refused : Option DirListRefusal} (few : entries.length ≤ 200)
    (names : ∀ entry ∈ entries, (asBytes entry.name).length ≤ 255) :
    (messageKind.encode (.dirListResponse entries truncated refused)).length ≤ 57214 := by
  have all := length_vec_le dirEntry_ne_nil entries fun entry member =>
    length_dirEntry_le (names entry member)
  have flag := length_bool truncated
  have why := length_option_le refused fun given _ => (length_dirListRefusal given).le
  show (46 :: (Codec.pair (.vec dirEntry dirEntry_ne_nil)
    (.pair .bool (.option dirListRefusal))).encode _).length ≤ _
  rw [List.length_cons, length_pair, length_pair]
  omega

theorem length_dirOffer_le {name : String} {dir : Option String} {entries : List ManifestEntry}
    (shortName : (asBytes name).length ≤ 255) (shortDir : ∀ path ∈ dir, (asBytes path).length ≤ 4096)
    (few : entries.length ≤ 200) (paths : ∀ entry ∈ entries, (asBytes entry.path).length ≤ 255) :
    (messageKind.encode (.dirOffer name dir entries)).length ≤ 59583 := by
  have name := length_string_le shortName
  have into := length_option_le dir fun path given => length_string_le (shortDir path given)
  have all := length_vec_le manifestEntry_ne_nil entries fun entry member =>
    length_manifestEntry_le (paths entry member)
  show (50 :: (Codec.pair .string (.pair (.option .string)
    (.vec manifestEntry manifestEntry_ne_nil))).encode _).length ≤ _
  rw [List.length_cons, length_pair, length_pair]
  omega

theorem length_filePutOffer_le {dir name : String} {size : UInt64} {hash : Bytes 32}
    (shortDir : (asBytes dir).length ≤ 4096) (shortName : (asBytes name).length ≤ 255) :
    (messageKind.encode (.filePutOffer dir name size hash)).length ≤ 4414 := by
  have into := length_string_le shortDir
  have name := length_string_le shortName
  have size' := length_u64_le size
  have hash' := length_array hash
  show (49 :: (Codec.pair .string (.pair .string (.pair .u64 (.array 32)))).encode _).length ≤ _
  rw [List.length_cons, length_pair, length_pair, length_pair]
  omega

theorem length_fileOpRequest_le {id : UInt32} {op : FileOp}
    (shortPath : (asBytes op.path).length ≤ 4096)
    (shortName : ∀ path name, op = .rename path name → (asBytes name).length ≤ 255) :
    (messageKind.encode (.fileOpRequest id op)).length ≤ 4378 := by
  have id' := length_u32_le id
  have path' := length_string_le shortPath
  show (63 :: (Codec.pair .u32 fileOp).encode _).length ≤ _
  rw [List.length_cons, length_pair]
  cases op with
  | makeDir path =>
      have op : (fileOp.encode (.makeDir path)).length = (Codec.string.encode path).length + 1 := rfl
      simp only [FileOp.path] at *
      omega
  | rename path name =>
      have name' := length_string_le (shortName path name rfl)
      have op : (fileOp.encode (.rename path name)).length =
        ((Codec.pair .string .string).encode (path, name)).length + 1 := rfl
      rw [length_pair] at op
      simp only [FileOp.path] at *
      omega
  | delete path =>
      have op : (fileOp.encode (.delete path)).length = (Codec.string.encode path).length + 1 := rfl
      simp only [FileOp.path] at *
      omega

theorem length_clipboardFileOffer_le {files : List ClipboardFileEntry} (few : files.length ≤ 3)
    (names : ∀ entry ∈ files, (asBytes entry.name).length ≤ 255) :
    (messageKind.encode (.clipboardFileOffer files)).length ≤ 836 := by
  have all := length_vec_le clipboardFileEntry_ne_nil files fun entry member =>
    length_clipboardFileEntry_le (names entry member)
  show (39 :: (Codec.vec clipboardFileEntry clipboardFileEntry_ne_nil).encode _).length ≤ _
  rw [List.length_cons]
  omega

theorem length_clipboardSync {data : List UInt8} (short : data.length < 2 ^ 64) :
    (messageKind.encode (.clipboardSync data)).length = 1 + varintLen data.length + data.length := by
  show (10 :: Codec.bytes.encode data).length = _
  rw [List.length_cons, length_bytes short]
  omega

theorem length_cursorShape {shape : CursorShapeData} (short : shape.rgba.length < 2 ^ 64) :
    (messageKind.encode (.cursorShape shape)).length =
      1 + varintLen shape.width.toNat + varintLen shape.height.toNat
        + varintLen shape.hotspotX.toNat + varintLen shape.hotspotY.toNat
        + varintLen shape.rgba.length + shape.rgba.length := by
  show (21 :: cursorShapeData.encode shape).length = _
  rw [List.length_cons, length_cursorShapeData short]
  omega

end Wire

/-- The kinds that carry their whole payload in the control frame, under limits of their own. -/
def MessageKind.isLimited : MessageKind → Bool
  | .chat .. | .clipboardSync .. | .cursorShape .. | .monitorsList .. | .displayModesList ..
  | .dirListResponse .. | .dirOffer .. | .filePutOffer .. | .fileOpRequest ..
  | .clipboardFileOffer .. => true
  | _ => false

namespace MessageEnvelope

/-- The room a clipboard text or a cursor leaves for the envelope; the other kinds' limits leave
enough. -/
def LeavesRoom (envelope : MessageEnvelope) : Prop :=
  match envelope.kind with
  | .clipboardSync data =>
      data.length + varintLen envelope.seq.toNat + 22 ≤ maxControlFrameBytes
  | .cursorShape shape =>
      4 * (shape.width.toNat * shape.height.toNat)
        + (varintLen shape.width.toNat + varintLen shape.height.toNat
          + varintLen shape.hotspotX.toNat + varintLen shape.hotspotY.toNat)
        + varintLen envelope.seq.toNat + 22 ≤ maxControlFrameBytes
  | _ => True

variable {envelope : MessageEnvelope}

theorem exists_encode_iff : (∃ bytes, envelope.encode = .ok bytes) ↔
    (Wire.messageEnvelope.encode envelope).length ≤ maxControlFrameBytes := by
  simp only [encode_eq_ok_iff]
  exact ⟨fun ⟨_, same, fits⟩ => same ▸ fits, fun fits => ⟨_, rfl, fits⟩⟩

theorem varintLen_seq_le (seq : UInt64) : varintLen seq.toNat ≤ 10 := by
  rw [← Codec.length_u64]
  exact Codec.length_u64_le seq

theorem varintLen_u16_le (value : UInt16) : varintLen value.toNat ≤ 3 := by
  rw [← Codec.length_u16]
  exact length_pushVarint_le 3 _

/-- A payload of up to a frame's length counts its own length in three bytes, or is far from
filling the frame. -/
theorem varintLen_payload {length : Nat} (most : length ≤ 65536) :
    (length < 16384 ∧ varintLen length ≤ 2) ∨ (16384 ≤ length ∧ varintLen length = 3) := by
  by_cases small : length < 16384
  · refine .inl ⟨small, ?_⟩
    have below : Nat.log 128 length < 2 := Nat.log_lt_of_lt_pow' (by decide) small
    rw [varintLen]
    omega
  · refine .inr ⟨by omega, ?_⟩
    have exact : Nat.log 128 length = 2 :=
      (Nat.log_eq_iff (.inl (by decide))).mpr ⟨by omega, by omega⟩
    rw [varintLen, exact]

/-- The kinds other than a clipboard text and a cursor stay away from the frame bound. -/
theorem length_kind_le (limited : envelope.kind.isLimited) (limits : envelope.checkLimits = .ok ())
    (notText : ∀ data, envelope.kind ≠ .clipboardSync data)
    (notCursor : ∀ shape, envelope.kind ≠ .cursorShape shape) :
    (Wire.messageKind.encode envelope.kind).length ≤ 60000 := by
  unfold checkLimits at limits
  cases kind : envelope.kind <;> rw [kind] at limited limits
  case chat text =>
    simp [chatMaxBytes] at limits
    exact (Wire.length_chat_le limits).trans (by decide)
  case clipboardSync data => exact absurd kind (notText data)
  case cursorShape shape => exact absurd kind (notCursor shape)
  case monitorsList monitors =>
    simp [maxMonitorsPerHost] at limits
    exact (Wire.length_monitorsList_le limits.1).trans (by decide)
  case displayModesList modes reason =>
    simp [checkDisplayModes, maxDisplayModesPerHost] at limits
    exact (Wire.length_displayModesList_le limits.2.1).trans (by decide)
  case dirListResponse entries truncated refused =>
    simp [checkDirListing, maxDirEntriesPerResponse, fileNameMaxBytes] at limits
    exact (Wire.length_dirListResponse_le limits.1 fun entry member =>
      (limits.2.2 entry member).2).trans (by decide)
  case dirOffer name dir entries =>
    obtain ⟨shortName, shortDir, few, shortPaths⟩ := lengths_of_checkManifest limits
    exact (Wire.length_dirOffer_le shortName shortDir few shortPaths).trans (by decide)
  case filePutOffer dir name size hash =>
    simp [checkPutOffer, fileNameMaxBytes, dirPathMaxBytes] at limits
    exact (Wire.length_filePutOffer_le limits.1.2 limits.2.1.2).trans (by decide)
  case fileOpRequest id op =>
    obtain ⟨shortPath, shortName⟩ := lengths_of_checkFileOp limits
    exact (Wire.length_fileOpRequest_le shortPath shortName).trans (by decide)
  case clipboardFileOffer files =>
    simp [clipboardFileListMaxEntries, maxPendingFileOffers, fileNameMaxBytes] at limits
    exact (Wire.length_clipboardFileOffer_le limits.1 fun entry member =>
      (limits.2 entry member).2).trans (by decide)
  all_goals cases limited

theorem fits_clipboardSync_iff {data : List UInt8} (empty : envelope.body = [])
    (kind : envelope.kind = .clipboardSync data) (limits : envelope.checkLimits = .ok ()) :
    (Wire.messageEnvelope.encode envelope).length ≤ maxControlFrameBytes ↔ envelope.LeavesRoom := by
  have most : data.length ≤ 65536 := by
    simp only [checkLimits, kind, malformedIf_eq_ok, decide_eq_false_iff_not, Nat.not_lt] at limits
    exact limits
  have counter := varintLen_seq_le envelope.seq
  rw [Wire.length_messageEnvelope empty, LeavesRoom, kind, Wire.length_clipboardSync (by omega)]
  simp only [maxControlFrameBytes]
  rcases varintLen_payload most with ⟨small, two⟩ | ⟨large, three⟩ <;> omega

theorem fits_cursorShape_iff {shape : CursorShapeData} (empty : envelope.body = [])
    (kind : envelope.kind = .cursorShape shape) (limits : envelope.checkLimits = .ok ()) :
    (Wire.messageEnvelope.encode envelope).length ≤ maxControlFrameBytes ↔ envelope.LeavesRoom := by
  simp only [checkLimits, kind, malformedIf_bind_eq_ok, malformedIf_eq_ok, Bool.or_eq_false_iff,
    decide_eq_false_iff_not, bne_eq_false_iff_eq, Nat.not_lt] at limits
  obtain ⟨⟨⟨-, area⟩, pixels⟩, -⟩ := limits
  have most : shape.rgba.length ≤ 65536 := by
    rw [pixels]
    exact Nat.mul_le_mul_right 4 area
  have counter := varintLen_seq_le envelope.seq
  have width := varintLen_u16_le shape.width
  have height := varintLen_u16_le shape.height
  have hotspotX := varintLen_u16_le shape.hotspotX
  have hotspotY := varintLen_u16_le shape.hotspotY
  rw [Wire.length_messageEnvelope empty, LeavesRoom, kind, Wire.length_cursorShape (by omega)]
  simp only [maxControlFrameBytes]
  rcases varintLen_payload most with ⟨small, two⟩ | ⟨large, three⟩ <;> omega

/-- An envelope without a body whose payload passes its limits can be sent exactly if the payload
leaves room for the envelope; only a clipboard text and a cursor may not. -/
theorem encode_isOk_iff_leavesRoom (empty : envelope.body = []) (limited : envelope.kind.isLimited)
    (limits : envelope.checkLimits = .ok ()) :
    (∃ bytes, envelope.encode = .ok bytes) ↔ envelope.LeavesRoom := by
  rw [exists_encode_iff]
  by_cases text : ∃ data, envelope.kind = .clipboardSync data
  · obtain ⟨data, kind⟩ := text
    exact fits_clipboardSync_iff empty kind limits
  by_cases cursor : ∃ shape, envelope.kind = .cursorShape shape
  · obtain ⟨shape, kind⟩ := cursor
    exact fits_cursorShape_iff empty kind limits
  have notText : ∀ data, envelope.kind ≠ .clipboardSync data := fun data kind => text ⟨data, kind⟩
  have notCursor : ∀ shape, envelope.kind ≠ .cursorShape shape :=
    fun shape kind => cursor ⟨shape, kind⟩
  have room : envelope.LeavesRoom := by
    unfold LeavesRoom
    split
    · exact absurd ‹_› (notText _)
    · exact absurd ‹_› (notCursor _)
    · trivial
  have payload := length_kind_le limited limits notText notCursor
  have counter := varintLen_seq_le envelope.seq
  refine ⟨fun _ => room, fun _ => ?_⟩
  rw [Wire.length_messageEnvelope empty, maxControlFrameBytes]
  omega

theorem shortText_fits :
    ∃ bytes, (firstMessage (.clipboardSync [104, 105])).encode = .ok bytes := by
  apply (encode_isOk_iff_leavesRoom rfl rfl (by decide)).mpr
  show 2 + varintLen 0 + 22 ≤ 65536
  decide

/-- An opaque cursor of the largest area. -/
def largestCursor : CursorShapeData :=
  { width := 128, height := 128, hotspotX := 0, hotspotY := 0, rgba := List.replicate 65536 255 }

/-- A text as long as the clipboard takes. -/
def longestText : List UInt8 := asBytes (String.ofList (List.replicate 65536 'a'))

theorem length_asBytes_replicate (n : Nat) :
    (asBytes (String.ofList (List.replicate n 'a'))).length = n := by
  have counted : (List.replicate n 'a').utf8Encode.size = n := by
    induction n with
    | zero => simp
    | succ n ih =>
        have one : ['a'].utf8Encode.size = 1 := by
          rw [List.utf8Encode_singleton, List.size_toByteArray]
          rfl
        rw [List.replicate_succ, List.utf8Encode_cons, ByteArray.size_append, ih, one, add_comm]
  rw [asBytes, String.toByteArray_ofList, Array.length_toList]
  exact counted

theorem length_longestText : longestText.length = 65536 := length_asBytes_replicate 65536

theorem validatePayload_longestText : validatePayload longestText = .ok () := by
  have length := length_longestText
  have sized : (longestText.isEmpty || longestText.length > clipboardMaxBytes) = false := by
    rw [Bool.or_eq_false_iff, decide_eq_false_iff_not, length, List.isEmpty_eq_false_iff]
    exact ⟨fun empty => by simp [empty] at length, by decide⟩
  have text : fromUtf8 longestText = some (String.ofList (List.replicate 65536 'a')) :=
    fromUtf8_asBytes _
  rw [validatePayload, sized, text]
  rfl

theorem localChanged_new {data : List UInt8} (valid : validatePayload data = .ok ()) :
    (ClipboardSync.new.localChanged data).1 = .ok (some data) := by
  rw [ClipboardSync.localChanged, valid]
  rfl

theorem length_largestCursor : largestCursor.rgba.length = 65536 := List.length_replicate

theorem not_exists_encode_of_long {kind : MessageKind}
    (long : 65517 < (Wire.messageKind.encode kind).length) :
    ¬ ∃ bytes, (firstMessage kind).encode = .ok bytes := by
  have size : (Wire.messageEnvelope.encode (firstMessage kind)).length =
      18 + varintLen 0 + (Wire.messageKind.encode kind).length := Wire.length_messageEnvelope rfl
  rw [exists_encode_iff, size, maxControlFrameBytes, varintLen]
  omega

theorem long_longestText :
    65517 < (Wire.messageKind.encode (.clipboardSync longestText)).length := by
  have length := length_longestText
  rw [Wire.length_clipboardSync (by omega), length]
  omega

theorem long_largestCursor :
    65517 < (Wire.messageKind.encode (.cursorShape largestCursor)).length := by
  have length := length_largestCursor
  rw [Wire.length_cursorShape (by omega), length]
  omega

/-- A text the clipboard hands out to be sent, and a cursor within its limits, that no frame
holds. -/
theorem longestText_and_largestCursor_do_not_fit :
    ((ClipboardSync.new.localChanged longestText).1 = .ok (some longestText) ∧
      (firstMessage (.clipboardSync longestText)).checkLimits = .ok () ∧
      ¬ ∃ bytes, (firstMessage (.clipboardSync longestText)).encode = .ok bytes) ∧
    ((firstMessage (.cursorShape largestCursor)).checkLimits = .ok () ∧
      ¬ ∃ bytes, (firstMessage (.cursorShape largestCursor)).encode = .ok bytes) := by
  refine ⟨⟨localChanged_new validatePayload_longestText, ?_,
    not_exists_encode_of_long long_longestText⟩, ?_, not_exists_encode_of_long long_largestCursor⟩
  · simp [checkLimits, firstMessage, length_longestText, clipboardMaxBytes]
  · simp only [checkLimits, firstMessage, malformedIf_bind_eq_ok, malformedIf_eq_ok,
      length_largestCursor]
    decide

end MessageEnvelope

end Lumepeer.Core
