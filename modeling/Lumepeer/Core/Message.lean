import Lumepeer.Core.Consent
import Lumepeer.Lib.Utf8

/-!
# Control messages

The messages of the control channel, `crates/core/src/protocol.rs`: the
envelope, its kinds and the limits a kind's payload keeps. A `String` is a text
and its length is that of its UTF-8 bytes; a `Vec<u8>` is a list of bytes.
-/

namespace Lumepeer.Core
open Lumepeer.Lib

/-- `Direction` (`protocol.rs:632-637`). -/
inductive Direction where
  | hostToGuest
  | guestToHost
  deriving DecidableEq, Repr

/-- `EncoderChoice` (`protocol.rs:1488-1501`). -/
inductive EncoderChoice where
  | auto
  | h264Hardware
  | h264Software
  | av1Hardware
  | av1Software
  deriving DecidableEq, Repr

/-- `FileOp` (`protocol.rs:1513-1535`). -/
inductive FileOp where
  | makeDir (path : String)
  | rename (path name : String)
  | delete (path : String)
  deriving DecidableEq

/-- `FileOpRefusal` (`protocol.rs:1546-1562`). -/
inductive FileOpRefusal where
  | notGranted
  | badPath
  | exists_
  | notFound
  | busy
  | failed
  deriving DecidableEq, Repr

/-- `RebootMode` (`protocol.rs:1708-1713`). -/
inductive RebootMode where
  | reboot
  | shutdown
  deriving DecidableEq, Repr

/-- `TerminalRefusal` (`protocol.rs:1720-1742`). -/
inductive TerminalRefusal where
  | notGranted
  | tooMany
  | cannotDropPrivileges
  | unavailable
  deriving DecidableEq, Repr

/-- `TunnelRefusal` (`protocol.rs:1752-1766`). -/
inductive TunnelRefusal where
  | notGranted
  | badTarget
  | unreachable
  | tooMany
  deriving DecidableEq, Repr

/-- `ManifestEntry` (`protocol.rs:1771-1784`). -/
structure ManifestEntry where
  path : String
  size : UInt64
  isDir : Bool
  deriving DecidableEq

/-- `UnattendedRejection` (`protocol.rs:1843-1856`). -/
inductive UnattendedRejection where
  | badPassword
  | badCode
  | lockedOut (remainingSecs : UInt64)
  | unavailable
  deriving DecidableEq, Repr

/-- `MediaUnavailableReason` (`protocol.rs:1865-1889`). -/
inductive MediaUnavailableReason where
  | noCaptureBackend
  | noEncoder
  | secureDesktopActive
  | captureDenied
  | encoderFailed
  deriving DecidableEq, Repr

/-- `CursorShapeData` (`protocol.rs:1893-1916`). -/
structure CursorShapeData where
  width : UInt16
  height : UInt16
  hotspotX : UInt16
  hotspotY : UInt16
  rgba : List UInt8
  deriving DecidableEq

/-- `ClipboardFileEntry` (`protocol.rs:1928-1935`). -/
structure ClipboardFileEntry where
  name : String
  size : UInt64
  deriving DecidableEq

/-- `MonitorInfo` (`protocol.rs:1939-1948`). -/
structure MonitorInfo where
  id : UInt32
  width : UInt32
  height : UInt32
  primary : Bool
  deriving DecidableEq

/-- `DisplayModeInfo` (`protocol.rs:1953-1962`). -/
structure DisplayModeInfo where
  id : UInt32
  width : UInt32
  height : UInt32
  refreshHz : UInt32
  deriving DecidableEq

/-- `DisplayModeUnavailableReason` (`protocol.rs:1971-1980`). -/
inductive DisplayModeUnavailableReason where
  | notGranted
  | platformUnsupported
  | noModesReported
  deriving DecidableEq, Repr

/-- `DirEntry` (`protocol.rs:1990-2005`). -/
structure DirEntry where
  name : String
  size : UInt64
  isDir : Bool
  modifiedUnix : UInt64
  deriving DecidableEq

/-- `DirListRefusal` (`protocol.rs:2018-2035`). -/
inductive DirListRefusal where
  | notGranted
  | badPath
  | unreadable
  deriving DecidableEq, Repr

/-- `FileFetchRefusal` (`protocol.rs:2047-2070`). -/
inductive FileFetchRefusal where
  | notGranted
  | badPath
  | unreadable
  | tooMany
  deriving DecidableEq, Repr

/-- `MessageKind` (`protocol.rs:656-1481`). -/
inductive MessageKind where
  | hello (major minor : UInt16) (roleRequest : Role) (features : List String)
      (inviteProof : List UInt8)
  | helloAck (major minor : UInt16)
  | consentRequest
  | consentGrant (role : Role)
  | consentRevoke
  | sessionStart
  | sessionStop
  | licenseWarn (secondsLeft : UInt64)
  | licenseDeny (reason : String)
  | inputEvent (payload : InputEventPayload)
  | clipboardSync (data : List UInt8)
  | recordRequest
  | recordAck (accepted : Bool)
  | fileOffer (name : String) (size : UInt64) (hash : Bytes 32)
  | fileAccept (accepted : Bool)
  | qualityAdjust (targetFps : UInt8) (targetBitrateKbps : UInt32)
  | ping (nonce : UInt64)
  | pong (nonce : UInt64)
  | resumeHello (sessionId : Bytes 16) (lastReceivedSeq : UInt64)
  | chat (text : String)
  | keyframeRequest
  | cursorShape (shape : CursorShapeData)
  | monitorsList (monitors : List MonitorInfo)
  | monitorSelect (monitorId : UInt32)
  | privacyMode (enabled : Bool)
  | privacyModeAck (active : Bool)
  | audioStart (sampleRateHz : UInt32) (channels : UInt8)
  | audioStop
  | fileAbort (transferId : UInt64)
  | fileChunkAck (transferId offset : UInt64)
  | mediaUnavailable (reason : MediaUnavailableReason)
  | sasRequest
  | sasAck (delivered : Bool)
  | unattendedChallenge (codeRequired : Bool)
  | unattendedAuth (password : String) (code : Option String)
  | unattendedReject (rejection : UnattendedRejection)
  | fileTransferStart (transferId : UInt64) (name : String) (size : UInt64) (hash : Bytes 32)
  | receiverReport (lossPermille : UInt16) (rttMs goodputKbps : UInt32)
  | streamScaleRequest (scalePercent : UInt32)
  | clipboardFileOffer (files : List ClipboardFileEntry)
  | clipboardFileAccept (accepted : Bool)
  | displayModesList (modes : List DisplayModeInfo) (reason : Option DisplayModeUnavailableReason)
  | displaySetMode (modeId : UInt32)
  | streamSizeRequest (width height : UInt32)
  | mediaCodec (codec : UInt8)
  | dirListRequest (path : String)
  | dirListResponse (entries : List DirEntry) (truncated : Bool) (refused : Option DirListRefusal)
  | fileFetchRequest (path : String)
  | fileFetchRefused (reason : FileFetchRefusal)
  | filePutOffer (dir name : String) (size : UInt64) (hash : Bytes 32)
  | dirOffer (name : String) (dir : Option String) (entries : List ManifestEntry)
  | dirAccept (accepted : Bool)
  | tunnelOpenRequest (host : String) (port : UInt16) (streamId : UInt32)
  | tunnelOpenResponse (streamId : UInt32) (refused : Option TunnelRefusal)
  | tunnelClose (streamId : UInt32)
  | terminalOpenRequest (cols rows : UInt16)
  | terminalOpenResponse (sessionId : UInt32) (refused : Option TerminalRefusal)
  | terminalResize (sessionId : UInt32) (cols rows : UInt16)
  | terminalClose (sessionId : UInt32)
  | rebootRequest (mode : RebootMode)
  | sessionGrants (clipboardWrite fileTransfer : Bool)
  | unattendedProofChallenge (codeRequired : Bool) (kdf : ProofKdf) (hostMessage : List UInt8)
  | unattendedProof (guestMessage : List UInt8) (sealedCode : Option (List UInt8))
      (confirm : Bytes 32)
  | fileOpRequest (id : UInt32) (op : FileOp)
  | fileOpResult (id : UInt32) (refused : Option FileOpRefusal)
  | deviceInfo (name os : String)
  | encoderOptions (available : List EncoderChoice) (chosen : EncoderChoice)
  | encoderSelect (choice : EncoderChoice)
  deriving DecidableEq

/-- `MessageKind::direction` (`protocol.rs:1617-1696`). -/
def MessageKind.direction : MessageKind → Option Direction
  | .helloAck .. | .consentGrant .. | .consentRevoke | .licenseWarn .. | .licenseDeny ..
  | .recordAck .. | .cursorShape .. | .monitorsList .. | .privacyModeAck .. | .mediaUnavailable ..
  | .sasAck .. | .unattendedChallenge .. | .unattendedReject .. | .displayModesList ..
  | .mediaCodec .. | .dirListResponse .. | .fileFetchRefused .. | .tunnelOpenResponse ..
  | .terminalOpenResponse .. | .sessionGrants .. | .unattendedProofChallenge .. | .fileOpResult ..
  | .encoderOptions .. => some .hostToGuest
  | .hello .. | .resumeHello .. | .consentRequest | .inputEvent .. | .recordRequest
  | .keyframeRequest | .monitorSelect .. | .privacyMode .. | .sasRequest | .unattendedAuth ..
  | .receiverReport .. | .streamScaleRequest .. | .displaySetMode .. | .streamSizeRequest ..
  | .dirListRequest .. | .fileFetchRequest .. | .filePutOffer .. | .tunnelOpenRequest ..
  | .terminalOpenRequest .. | .terminalResize .. | .rebootRequest .. | .unattendedProof ..
  | .fileOpRequest .. | .encoderSelect .. => some .guestToHost
  | .sessionStart | .sessionStop | .clipboardSync .. | .fileOffer .. | .fileAccept ..
  | .qualityAdjust .. | .ping .. | .pong .. | .chat .. | .audioStart .. | .audioStop
  | .fileAbort .. | .fileChunkAck .. | .fileTransferStart .. | .clipboardFileOffer ..
  | .clipboardFileAccept .. | .dirOffer .. | .dirAccept .. | .tunnelClose .. | .terminalClose ..
  | .deviceInfo .. => none

/-- `MessageEnvelope` (`protocol.rs:641-652`). -/
structure MessageEnvelope where
  sessionId : SessionId
  direction : Direction
  seq : UInt64
  kind : MessageKind
  body : List UInt8
  deriving DecidableEq

/-- `Err(CoreError::Malformed)` if `bad`, else `Ok(())`. -/
def malformedIf (bad : Bool) : Except CoreError Unit := if bad then .error .malformed else .ok ()

/-- `check_dir_listing` (`protocol.rs:2118-2132`). -/
def checkDirListing (entries : List DirEntry) (refused : Option DirListRefusal) :
    Except CoreError Unit := do
  malformedIf (entries.length > maxDirEntriesPerResponse)
  malformedIf (refused.isSome && !entries.isEmpty)
  malformedIf (entries.any fun entry =>
    (asBytes entry.name).isEmpty || (asBytes entry.name).length > fileNameMaxBytes)

/-- `check_display_modes` (`protocol.rs:2146-2163`). -/
def checkDisplayModes (modes : List DisplayModeInfo)
    (reason : Option DisplayModeUnavailableReason) : Except CoreError Unit := do
  malformedIf (modes.isEmpty == reason.isNone)
  malformedIf (modes.length > maxDisplayModesPerHost)
  malformedIf (modes.any fun mode => mode.width == 0 || mode.height == 0 || mode.refreshHz == 0)

/-- `check_manifest` (`protocol.rs:2177-2196`). -/
def checkManifest (name : String) (dir : Option String) (entries : List ManifestEntry) :
    Except CoreError Unit := do
  malformedIf (entries.length > maxDirManifestEntries)
  malformedIf ((asBytes name).isEmpty || (asBytes name).length > fileNameMaxBytes)
  malformedIf (dir.any fun dir => (asBytes dir).isEmpty || (asBytes dir).length > dirPathMaxBytes)
  malformedIf (entries.any fun entry =>
    (asBytes entry.path).isEmpty || (asBytes entry.path).length > manifestPathMaxBytes
      || entry.size > fileOfferMaxBytes || (entry.isDir && entry.size != 0))

/-- `check_tunnel_target` (`protocol.rs:2207-2212`). -/
def checkTunnelTarget (host : String) (port : UInt16) : Except CoreError Unit :=
  malformedIf ((asBytes host).isEmpty || (asBytes host).length > tunnelHostMaxBytes || port == 0)

/-- `check_terminal_size` (`protocol.rs:2226-2231`). -/
def checkTerminalSize (cols rows : UInt16) : Except CoreError Unit :=
  malformedIf (cols == 0 || rows == 0 || cols > terminalColsMax || rows > terminalRowsMax)

/-- `check_put_offer` (`protocol.rs:2241-2249`). -/
def checkPutOffer (dir name : String) (size : UInt64) : Except CoreError Unit := do
  malformedIf ((asBytes dir).isEmpty || (asBytes dir).length > dirPathMaxBytes)
  malformedIf ((asBytes name).isEmpty || (asBytes name).length > fileNameMaxBytes
    || size > fileOfferMaxBytes)

/-- The path of a `FileOp`. -/
def FileOp.path : FileOp → String
  | .makeDir path | .delete path | .rename path _ => path

/-- `check_file_op` (`protocol.rs:2260-2274`). -/
def checkFileOp (op : FileOp) : Except CoreError Unit := do
  match op with
  | .rename _ name =>
      malformedIf ((asBytes name).isEmpty || (asBytes name).length > fileNameMaxBytes)
  | .makeDir _ | .delete _ => pure ()
  malformedIf ((asBytes op.path).isEmpty || (asBytes op.path).length > dirPathMaxBytes)

/-- `MediaCodec::try_from` (`protocol.rs:1821-1832`) accepts the byte. -/
def isMediaCodec (byte : UInt8) : Bool := byte == 0 || byte == 1 || byte == 3

/-- `MessageEnvelope::check_limits` (`protocol.rs:2331-2497`). -/
def MessageEnvelope.checkLimits (envelope : MessageEnvelope) : Except CoreError Unit :=
  match envelope.kind with
  | .chat text => malformedIf ((asBytes text).length > chatMaxBytes)
  | .clipboardSync data => malformedIf (data.length > clipboardMaxBytes)
  | .cursorShape shape => do
      let pixels := shape.width.toNat * shape.height.toNat
      malformedIf (pixels == 0 || pixels > maxCursorShapePixels || shape.rgba.length != pixels * 4)
      malformedIf (shape.hotspotX ≥ shape.width || shape.hotspotY ≥ shape.height)
  | .monitorsList monitors => do
      malformedIf (monitors.length > maxMonitorsPerHost)
      malformedIf (monitors.any fun monitor => monitor.width == 0 || monitor.height == 0)
  | .fileOffer name size _ | .fileTransferStart _ name size _ =>
      malformedIf (size > fileOfferMaxBytes || (asBytes name).length > fileNameMaxBytes)
  | .clipboardFileOffer files => do
      malformedIf (files.length > clipboardFileListMaxEntries)
      malformedIf (files.any fun entry =>
        entry.size > fileOfferMaxBytes || (asBytes entry.name).length > fileNameMaxBytes)
  | .unattendedAuth password code => do
      malformedIf ((asBytes password).length > unattendedPasswordMaxBytes)
      malformedIf (code.any fun code => (asBytes code).length > unattendedCodeMaxBytes)
  | .streamScaleRequest scalePercent =>
      malformedIf (scalePercent < abrMinScalePercent || scalePercent > streamScaleMaxPercent)
  | .streamSizeRequest width height =>
      malformedIf (width < streamSizeMinPx || height < streamSizeMinPx
        || width.toNat * height.toNat > maxStreamPixels)
  | .displayModesList modes reason => checkDisplayModes modes reason
  | .dirListRequest path | .fileFetchRequest path =>
      malformedIf ((asBytes path).isEmpty || (asBytes path).length > dirPathMaxBytes)
  | .dirListResponse entries _ refused => checkDirListing entries refused
  | .filePutOffer dir name size _ => checkPutOffer dir name size
  | .dirOffer name dir entries => checkManifest name dir entries
  | .fileOpRequest _ op => checkFileOp op
  | .deviceInfo name os =>
      malformedIf ((asBytes name).length > deviceNameMaxBytes || (asBytes os).length > deviceOsMaxBytes)
  | .tunnelOpenRequest host port _ => checkTunnelTarget host port
  | .terminalOpenRequest cols rows | .terminalResize _ cols rows => checkTerminalSize cols rows
  | .unattendedProofChallenge _ kdf hostMessage =>
      malformedIf (!kdf.withinBounds || hostMessage.isEmpty
        || hostMessage.length > unattendedProofMaxMessageBytes)
  | .unattendedProof guestMessage sealedCode _ =>
      malformedIf (guestMessage.isEmpty || guestMessage.length > unattendedProofMaxMessageBytes
        || sealedCode.any fun code => code.length > unattendedCodeMaxBytes)
  | .mediaCodec codec => malformedIf (!isMediaCodec codec)
  | .encoderOptions available _ => malformedIf (available.length > maxEncoderChoices)
  | _ => .ok ()

end Lumepeer.Core
