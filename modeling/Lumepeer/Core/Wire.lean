import Lumepeer.Core.Message
import Lumepeer.Lib.Postcard

/-!
# Control messages on the wire

The encoding and decoding of an envelope, `protocol.rs:2276-2315`. What
`postcard` makes of the derived `Serialize` and `Deserialize` instances is the
`Codec` of each type: its fields in the order of the declaration, its variants
by their index. Lengths are those of a 64-bit `usize`.
-/

namespace Lumepeer.Core
open Lumepeer.Lib

namespace Wire

theorem string_ne_nil (text : String) : Codec.string.encode text ≠ [] :=
  List.append_ne_nil_of_left_ne_nil (pushVarint_ne_nil 9 _) _

/-- `Direction`. -/
def direction : Codec Direction :=
  .enum Direction.ctorIdx [.hostToGuest, .guestToHost] (by rintro (_ | _) <;> rfl) rfl (by decide)

/-- `Role`. -/
def role : Codec Role :=
  .enum Role.ctorIdx [.viewOnly, .controlLimited, .fullControl]
    (by rintro (_ | _ | _) <;> rfl) rfl (by decide)

/-- `EncoderChoice`. -/
def encoderChoice : Codec EncoderChoice :=
  .enum EncoderChoice.ctorIdx [.auto, .h264Hardware, .h264Software, .av1Hardware, .av1Software]
    (by rintro (_ | _ | _ | _ | _) <;> rfl) rfl (by decide)

theorem encoderChoice_ne_nil (choice : EncoderChoice) : encoderChoice.encode choice ≠ [] :=
  pushVarint_ne_nil 4 _

/-- `FileOpRefusal`. -/
def fileOpRefusal : Codec FileOpRefusal :=
  .enum FileOpRefusal.ctorIdx [.notGranted, .badPath, .exists_, .notFound, .busy, .failed]
    (by rintro (_ | _ | _ | _ | _ | _) <;> rfl) rfl (by decide)

/-- `RebootMode`. -/
def rebootMode : Codec RebootMode :=
  .enum RebootMode.ctorIdx [.reboot, .shutdown] (by rintro (_ | _) <;> rfl) rfl (by decide)

/-- `TerminalRefusal`. -/
def terminalRefusal : Codec TerminalRefusal :=
  .enum TerminalRefusal.ctorIdx [.notGranted, .tooMany, .cannotDropPrivileges, .unavailable]
    (by rintro (_ | _ | _ | _) <;> rfl) rfl (by decide)

/-- `TunnelRefusal`. -/
def tunnelRefusal : Codec TunnelRefusal :=
  .enum TunnelRefusal.ctorIdx [.notGranted, .badTarget, .unreachable, .tooMany]
    (by rintro (_ | _ | _ | _) <;> rfl) rfl (by decide)

/-- `MediaUnavailableReason`. -/
def mediaUnavailableReason : Codec MediaUnavailableReason :=
  .enum MediaUnavailableReason.ctorIdx
    [.noCaptureBackend, .noEncoder, .secureDesktopActive, .captureDenied, .encoderFailed]
    (by rintro (_ | _ | _ | _ | _) <;> rfl) rfl (by decide)

/-- `DisplayModeUnavailableReason`. -/
def displayModeUnavailableReason : Codec DisplayModeUnavailableReason :=
  .enum DisplayModeUnavailableReason.ctorIdx [.notGranted, .platformUnsupported, .noModesReported]
    (by rintro (_ | _ | _) <;> rfl) rfl (by decide)

/-- `DirListRefusal`. -/
def dirListRefusal : Codec DirListRefusal :=
  .enum DirListRefusal.ctorIdx [.notGranted, .badPath, .unreadable]
    (by rintro (_ | _ | _) <;> rfl) rfl (by decide)

/-- `FileFetchRefusal`. -/
def fileFetchRefusal : Codec FileFetchRefusal :=
  .enum FileFetchRefusal.ctorIdx [.notGranted, .badPath, .unreadable, .tooMany]
    (by rintro (_ | _ | _ | _) <;> rfl) rfl (by decide)

/-- `ManifestEntry`. -/
def manifestEntry : Codec ManifestEntry :=
  (Codec.pair .string (.pair .u64 .bool)).fields
    (fun (path, size, isDir) => { path, size, isDir })
    (fun entry => (entry.path, entry.size, entry.isDir)) (fun _ => rfl) fun _ => rfl

theorem manifestEntry_ne_nil (entry : ManifestEntry) : manifestEntry.encode entry ≠ [] :=
  List.append_ne_nil_of_left_ne_nil (string_ne_nil _) _

/-- `CursorShapeData`. -/
def cursorShapeData : Codec CursorShapeData :=
  (Codec.pair .u16 (.pair .u16 (.pair .u16 (.pair .u16 .bytes)))).fields
    (fun (width, height, hotspotX, hotspotY, rgba) => { width, height, hotspotX, hotspotY, rgba })
    (fun shape => (shape.width, shape.height, shape.hotspotX, shape.hotspotY, shape.rgba))
    (fun _ => rfl) fun _ => rfl

/-- `ClipboardFileEntry`. -/
def clipboardFileEntry : Codec ClipboardFileEntry :=
  (Codec.pair .string .u64).fields (fun (name, size) => { name, size })
    (fun entry => (entry.name, entry.size)) (fun _ => rfl) fun _ => rfl

theorem clipboardFileEntry_ne_nil (entry : ClipboardFileEntry) :
    clipboardFileEntry.encode entry ≠ [] :=
  List.append_ne_nil_of_left_ne_nil (string_ne_nil _) _

/-- `MonitorInfo`. -/
def monitorInfo : Codec MonitorInfo :=
  (Codec.pair .u32 (.pair .u32 (.pair .u32 .bool))).fields
    (fun (id, width, height, primary) => { id, width, height, primary })
    (fun monitor => (monitor.id, monitor.width, monitor.height, monitor.primary))
    (fun _ => rfl) fun _ => rfl

theorem monitorInfo_ne_nil (monitor : MonitorInfo) : monitorInfo.encode monitor ≠ [] :=
  List.append_ne_nil_of_left_ne_nil (pushVarint_ne_nil 4 _) _

/-- `DisplayModeInfo`. -/
def displayModeInfo : Codec DisplayModeInfo :=
  (Codec.pair .u32 (.pair .u32 (.pair .u32 .u32))).fields
    (fun (id, width, height, refreshHz) => { id, width, height, refreshHz })
    (fun mode => (mode.id, mode.width, mode.height, mode.refreshHz)) (fun _ => rfl) fun _ => rfl

theorem displayModeInfo_ne_nil (mode : DisplayModeInfo) : displayModeInfo.encode mode ≠ [] :=
  List.append_ne_nil_of_left_ne_nil (pushVarint_ne_nil 4 _) _

/-- `DirEntry`. -/
def dirEntry : Codec DirEntry :=
  (Codec.pair .string (.pair .u64 (.pair .bool .u64))).fields
    (fun (name, size, isDir, modifiedUnix) => { name, size, isDir, modifiedUnix })
    (fun entry => (entry.name, entry.size, entry.isDir, entry.modifiedUnix))
    (fun _ => rfl) fun _ => rfl

theorem dirEntry_ne_nil (entry : DirEntry) : dirEntry.encode entry ≠ [] :=
  List.append_ne_nil_of_left_ne_nil (string_ne_nil _) _

/-- `ProofKdf`. -/
def proofKdf : Codec ProofKdf :=
  (Codec.pair .bytes (.pair .u32 (.pair .u32 (.pair .u32 .u32)))).fields
    (fun (salt, memoryKib, iterations, lanes, outputLen) =>
      { salt, memoryKib, iterations, lanes, outputLen })
    (fun kdf => (kdf.salt, kdf.memoryKib, kdf.iterations, kdf.lanes, kdf.outputLen))
    (fun _ => rfl) fun _ => rfl

/-- `FileOp`, variant by variant. -/
def fileOpVariants : List (Variant FileOp) := [
  { codec := .string
    make := .makeDir
    view := fun | .makeDir path => some path | _ => none },
  { codec := .pair .string .string
    make := fun (path, name) => .rename path name
    view := fun | .rename path name => some (path, name) | _ => none },
  { codec := .string
    make := .delete
    view := fun | .delete path => some path | _ => none }]

/-- `FileOp`. -/
def fileOp : Codec FileOp :=
  .variants FileOp.ctorIdx fileOpVariants (by rintro (_ | _ | _) <;> exact ⟨_, _, rfl, rfl⟩)
    (by repeat' first | exact trivial | refine ⟨fun _ => rfl, ?_⟩) (by decide)

/-- `UnattendedRejection`, variant by variant. -/
def unattendedRejectionVariants : List (Variant UnattendedRejection) := [
  { codec := .unit
    make := fun _ => .badPassword
    view := fun | .badPassword => some () | _ => none },
  { codec := .unit
    make := fun _ => .badCode
    view := fun | .badCode => some () | _ => none },
  { codec := .u64
    make := .lockedOut
    view := fun | .lockedOut remainingSecs => some remainingSecs | _ => none },
  { codec := .unit
    make := fun _ => .unavailable
    view := fun | .unavailable => some () | _ => none }]

/-- `UnattendedRejection`. -/
def unattendedRejection : Codec UnattendedRejection :=
  .variants UnattendedRejection.ctorIdx unattendedRejectionVariants
    (by rintro (_ | _ | _ | _) <;> exact ⟨_, _, rfl, rfl⟩)
    (by repeat' first | exact trivial | refine ⟨fun _ => rfl, ?_⟩) (by decide)

/-- `InputDetail`, variant by variant. -/
def inputDetailVariants : List (Variant InputDetail) := [
  { codec := .unit
    make := fun _ => .press
    view := fun | .press => some () | _ => none },
  { codec := .unit
    make := fun _ => .release
    view := fun | .release => some () | _ => none },
  { codec := .pair .u16 .u16
    make := fun (x, y) => .pointerMove x y
    view := fun | .pointerMove x y => some (x, y) | _ => none },
  { codec := .pair .i16 .i16
    make := fun (dx, dy) => .wheel dx dy
    view := fun | .wheel dx dy => some (dx, dy) | _ => none }]

/-- `InputDetail`. -/
def inputDetail : Codec InputDetail :=
  .variants InputDetail.ctorIdx inputDetailVariants
    (by rintro (_ | _ | _ | _) <;> exact ⟨_, _, rfl, rfl⟩)
    (by repeat' first | exact trivial | refine ⟨fun _ => rfl, ?_⟩) (by decide)

/-- `InputEventPayload`. -/
def inputEventPayload : Codec InputEventPayload :=
  (Codec.pair .u32 (.pair .u32 (.pair .u32 inputDetail))).fields
    (fun (logical, scancode, modifiers, detail) => { logical, scancode, modifiers, detail })
    (fun event => (event.logical, event.scancode, event.modifiers, event.detail))
    (fun _ => rfl) fun _ => rfl

/-- `MessageKind`, variant by variant. -/
def messageKindVariants : List (Variant MessageKind) := [
  { codec := .pair .u16 (.pair .u16 (.pair role (.pair (.vec .string string_ne_nil) .bytes)))
    make := fun (major, minor, roleRequest, features, inviteProof) =>
      .hello major minor roleRequest features inviteProof
    view := fun
      | .hello major minor roleRequest features inviteProof =>
          some (major, minor, roleRequest, features, inviteProof)
      | _ => none },
  { codec := .pair .u16 .u16
    make := fun (major, minor) => .helloAck major minor
    view := fun | .helloAck major minor => some (major, minor) | _ => none },
  { codec := .unit
    make := fun _ => .consentRequest
    view := fun | .consentRequest => some () | _ => none },
  { codec := role
    make := .consentGrant
    view := fun | .consentGrant role => some role | _ => none },
  { codec := .unit
    make := fun _ => .consentRevoke
    view := fun | .consentRevoke => some () | _ => none },
  { codec := .unit
    make := fun _ => .sessionStart
    view := fun | .sessionStart => some () | _ => none },
  { codec := .unit
    make := fun _ => .sessionStop
    view := fun | .sessionStop => some () | _ => none },
  { codec := .u64
    make := .licenseWarn
    view := fun | .licenseWarn secondsLeft => some secondsLeft | _ => none },
  { codec := .string
    make := .licenseDeny
    view := fun | .licenseDeny reason => some reason | _ => none },
  { codec := inputEventPayload
    make := .inputEvent
    view := fun | .inputEvent payload => some payload | _ => none },
  { codec := .bytes
    make := .clipboardSync
    view := fun | .clipboardSync data => some data | _ => none },
  { codec := .unit
    make := fun _ => .recordRequest
    view := fun | .recordRequest => some () | _ => none },
  { codec := .bool
    make := .recordAck
    view := fun | .recordAck accepted => some accepted | _ => none },
  { codec := .pair .string (.pair .u64 (.array 32))
    make := fun (name, size, hash) => .fileOffer name size hash
    view := fun | .fileOffer name size hash => some (name, size, hash) | _ => none },
  { codec := .bool
    make := .fileAccept
    view := fun | .fileAccept accepted => some accepted | _ => none },
  { codec := .pair .byte .u32
    make := fun (targetFps, targetBitrateKbps) => .qualityAdjust targetFps targetBitrateKbps
    view := fun
      | .qualityAdjust targetFps targetBitrateKbps => some (targetFps, targetBitrateKbps)
      | _ => none },
  { codec := .u64
    make := .ping
    view := fun | .ping nonce => some nonce | _ => none },
  { codec := .u64
    make := .pong
    view := fun | .pong nonce => some nonce | _ => none },
  { codec := .pair (.array 16) .u64
    make := fun (sessionId, lastReceivedSeq) => .resumeHello sessionId lastReceivedSeq
    view := fun
      | .resumeHello sessionId lastReceivedSeq => some (sessionId, lastReceivedSeq)
      | _ => none },
  { codec := .string
    make := .chat
    view := fun | .chat text => some text | _ => none },
  { codec := .unit
    make := fun _ => .keyframeRequest
    view := fun | .keyframeRequest => some () | _ => none },
  { codec := cursorShapeData
    make := .cursorShape
    view := fun | .cursorShape shape => some shape | _ => none },
  { codec := .vec monitorInfo monitorInfo_ne_nil
    make := .monitorsList
    view := fun | .monitorsList monitors => some monitors | _ => none },
  { codec := .u32
    make := .monitorSelect
    view := fun | .monitorSelect monitorId => some monitorId | _ => none },
  { codec := .bool
    make := .privacyMode
    view := fun | .privacyMode enabled => some enabled | _ => none },
  { codec := .bool
    make := .privacyModeAck
    view := fun | .privacyModeAck active => some active | _ => none },
  { codec := .pair .u32 .byte
    make := fun (sampleRateHz, channels) => .audioStart sampleRateHz channels
    view := fun | .audioStart sampleRateHz channels => some (sampleRateHz, channels) | _ => none },
  { codec := .unit
    make := fun _ => .audioStop
    view := fun | .audioStop => some () | _ => none },
  { codec := .u64
    make := .fileAbort
    view := fun | .fileAbort transferId => some transferId | _ => none },
  { codec := .pair .u64 .u64
    make := fun (transferId, offset) => .fileChunkAck transferId offset
    view := fun | .fileChunkAck transferId offset => some (transferId, offset) | _ => none },
  { codec := mediaUnavailableReason
    make := .mediaUnavailable
    view := fun | .mediaUnavailable reason => some reason | _ => none },
  { codec := .unit
    make := fun _ => .sasRequest
    view := fun | .sasRequest => some () | _ => none },
  { codec := .bool
    make := .sasAck
    view := fun | .sasAck delivered => some delivered | _ => none },
  { codec := .bool
    make := .unattendedChallenge
    view := fun | .unattendedChallenge codeRequired => some codeRequired | _ => none },
  { codec := .pair .string (.option .string)
    make := fun (password, code) => .unattendedAuth password code
    view := fun | .unattendedAuth password code => some (password, code) | _ => none },
  { codec := unattendedRejection
    make := .unattendedReject
    view := fun | .unattendedReject rejection => some rejection | _ => none },
  { codec := .pair .u64 (.pair .string (.pair .u64 (.array 32)))
    make := fun (transferId, name, size, hash) => .fileTransferStart transferId name size hash
    view := fun
      | .fileTransferStart transferId name size hash => some (transferId, name, size, hash)
      | _ => none },
  { codec := .pair .u16 (.pair .u32 .u32)
    make := fun (lossPermille, rttMs, goodputKbps) => .receiverReport lossPermille rttMs goodputKbps
    view := fun
      | .receiverReport lossPermille rttMs goodputKbps => some (lossPermille, rttMs, goodputKbps)
      | _ => none },
  { codec := .u32
    make := .streamScaleRequest
    view := fun | .streamScaleRequest scalePercent => some scalePercent | _ => none },
  { codec := .vec clipboardFileEntry clipboardFileEntry_ne_nil
    make := .clipboardFileOffer
    view := fun | .clipboardFileOffer files => some files | _ => none },
  { codec := .bool
    make := .clipboardFileAccept
    view := fun | .clipboardFileAccept accepted => some accepted | _ => none },
  { codec :=
      .pair (.vec displayModeInfo displayModeInfo_ne_nil) (.option displayModeUnavailableReason)
    make := fun (modes, reason) => .displayModesList modes reason
    view := fun | .displayModesList modes reason => some (modes, reason) | _ => none },
  { codec := .u32
    make := .displaySetMode
    view := fun | .displaySetMode modeId => some modeId | _ => none },
  { codec := .pair .u32 .u32
    make := fun (width, height) => .streamSizeRequest width height
    view := fun | .streamSizeRequest width height => some (width, height) | _ => none },
  { codec := .byte
    make := .mediaCodec
    view := fun | .mediaCodec codec => some codec | _ => none },
  { codec := .string
    make := .dirListRequest
    view := fun | .dirListRequest path => some path | _ => none },
  { codec := .pair (.vec dirEntry dirEntry_ne_nil) (.pair .bool (.option dirListRefusal))
    make := fun (entries, truncated, refused) => .dirListResponse entries truncated refused
    view := fun
      | .dirListResponse entries truncated refused => some (entries, truncated, refused)
      | _ => none },
  { codec := .string
    make := .fileFetchRequest
    view := fun | .fileFetchRequest path => some path | _ => none },
  { codec := fileFetchRefusal
    make := .fileFetchRefused
    view := fun | .fileFetchRefused reason => some reason | _ => none },
  { codec := .pair .string (.pair .string (.pair .u64 (.array 32)))
    make := fun (dir, name, size, hash) => .filePutOffer dir name size hash
    view := fun | .filePutOffer dir name size hash => some (dir, name, size, hash) | _ => none },
  { codec := .pair .string (.pair (.option .string) (.vec manifestEntry manifestEntry_ne_nil))
    make := fun (name, dir, entries) => .dirOffer name dir entries
    view := fun | .dirOffer name dir entries => some (name, dir, entries) | _ => none },
  { codec := .bool
    make := .dirAccept
    view := fun | .dirAccept accepted => some accepted | _ => none },
  { codec := .pair .string (.pair .u16 .u32)
    make := fun (host, port, streamId) => .tunnelOpenRequest host port streamId
    view := fun
      | .tunnelOpenRequest host port streamId => some (host, port, streamId)
      | _ => none },
  { codec := .pair .u32 (.option tunnelRefusal)
    make := fun (streamId, refused) => .tunnelOpenResponse streamId refused
    view := fun | .tunnelOpenResponse streamId refused => some (streamId, refused) | _ => none },
  { codec := .u32
    make := .tunnelClose
    view := fun | .tunnelClose streamId => some streamId | _ => none },
  { codec := .pair .u16 .u16
    make := fun (cols, rows) => .terminalOpenRequest cols rows
    view := fun | .terminalOpenRequest cols rows => some (cols, rows) | _ => none },
  { codec := .pair .u32 (.option terminalRefusal)
    make := fun (sessionId, refused) => .terminalOpenResponse sessionId refused
    view := fun
      | .terminalOpenResponse sessionId refused => some (sessionId, refused)
      | _ => none },
  { codec := .pair .u32 (.pair .u16 .u16)
    make := fun (sessionId, cols, rows) => .terminalResize sessionId cols rows
    view := fun | .terminalResize sessionId cols rows => some (sessionId, cols, rows) | _ => none },
  { codec := .u32
    make := .terminalClose
    view := fun | .terminalClose sessionId => some sessionId | _ => none },
  { codec := rebootMode
    make := .rebootRequest
    view := fun | .rebootRequest mode => some mode | _ => none },
  { codec := .pair .bool .bool
    make := fun (clipboardWrite, fileTransfer) => .sessionGrants clipboardWrite fileTransfer
    view := fun
      | .sessionGrants clipboardWrite fileTransfer => some (clipboardWrite, fileTransfer)
      | _ => none },
  { codec := .pair .bool (.pair proofKdf .bytes)
    make := fun (codeRequired, kdf, hostMessage) =>
      .unattendedProofChallenge codeRequired kdf hostMessage
    view := fun
      | .unattendedProofChallenge codeRequired kdf hostMessage =>
          some (codeRequired, kdf, hostMessage)
      | _ => none },
  { codec := .pair .bytes (.pair (.option .bytes) (.array 32))
    make := fun (guestMessage, sealedCode, confirm) =>
      .unattendedProof guestMessage sealedCode confirm
    view := fun
      | .unattendedProof guestMessage sealedCode confirm => some (guestMessage, sealedCode, confirm)
      | _ => none },
  { codec := .pair .u32 fileOp
    make := fun (id, op) => .fileOpRequest id op
    view := fun | .fileOpRequest id op => some (id, op) | _ => none },
  { codec := .pair .u32 (.option fileOpRefusal)
    make := fun (id, refused) => .fileOpResult id refused
    view := fun | .fileOpResult id refused => some (id, refused) | _ => none },
  { codec := .pair .string .string
    make := fun (name, os) => .deviceInfo name os
    view := fun | .deviceInfo name os => some (name, os) | _ => none },
  { codec := .pair (.vec encoderChoice encoderChoice_ne_nil) encoderChoice
    make := fun (available, chosen) => .encoderOptions available chosen
    view := fun | .encoderOptions available chosen => some (available, chosen) | _ => none },
  { codec := encoderChoice
    make := .encoderSelect
    view := fun | .encoderSelect choice => some choice | _ => none }]

/-- `MessageKind`. -/
def messageKind : Codec MessageKind :=
  .variants MessageKind.ctorIdx messageKindVariants
    (by intro kind; cases kind <;> exact ⟨_, _, rfl, rfl⟩)
    (by repeat' first | exact trivial | refine ⟨fun _ => rfl, ?_⟩) (by decide)

/-- `MessageEnvelope`. -/
def messageEnvelope : Codec MessageEnvelope :=
  (Codec.pair (.array 16) (.pair direction (.pair .u64 (.pair messageKind .bytes)))).fields
    (fun (sessionId, direction, seq, kind, body) => { sessionId, direction, seq, kind, body })
    (fun envelope =>
      (envelope.sessionId, envelope.direction, envelope.seq, envelope.kind, envelope.body))
    (fun _ => rfl) fun _ => rfl

end Wire

/-- `MessageEnvelope::encode` (`protocol.rs:2283-2289`); `postcard` can write every envelope. -/
def MessageEnvelope.encode (envelope : MessageEnvelope) : Except CoreError (List UInt8) :=
  let bytes := Wire.messageEnvelope.encode envelope
  if bytes.isEmpty || bytes.length > maxControlFrameBytes then .error (.frameSize bytes.length)
  else .ok bytes

/-- `MessageEnvelope::decode` (`protocol.rs:2298-2315`). -/
def MessageEnvelope.decode (bytes : List UInt8) : Except CoreError MessageEnvelope :=
  if bytes.isEmpty || bytes.length > maxControlFrameBytes then .error (.frameSize bytes.length)
  else
    match Wire.messageEnvelope.decode bytes with
    | none => .error .malformed
    | some (envelope, rest) =>
        if !rest.isEmpty then .error .malformed
        else do
          envelope.checkLimits
          return envelope

end Lumepeer.Core
