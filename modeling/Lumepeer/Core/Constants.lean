/-!
# Limits of the core crate

The constants of `crates/core/src/constants.rs` that the modelled functions
read, under the source's names: a `u64` or `u32` that enters word arithmetic
keeps its width, a size or a count is a natural number. Instants and durations
are counted in nanoseconds, the resolution of `std::time::Duration`.
-/

namespace Lumepeer.Core

/-- `std::time::Instant`: a reading of the monotonic clock, in nanoseconds. -/
abbrev Instant := Nat

/-- `std::time::Duration`, in nanoseconds. -/
abbrev Duration := Nat

/-- `Duration::from_secs`. -/
def Duration.fromSecs (secs : Nat) : Duration := secs * 1000000000

/-- `Duration::from_millis`. -/
def Duration.fromMillis (millis : Nat) : Duration := millis * 1000000

/-- `Duration::as_secs`. -/
def Duration.asSecs (duration : Duration) : Nat := duration / 1000000000

def maxControlFrameBytes : Nat := 65536
def maxMediaFrameBytes : Nat := 8 * 1024 * 1024
def maxStreamPixels : Nat := 5120 * 2880
def streamSizeMinPx : UInt32 := 160
def consentRatePerMinute : Nat := 5
def maxPendingConsents : Nat := 3
def reconnectWindowSecs : Nat := 300
def pingIntervalSecs : Nat := 20
def trialSessionLimitSecs : UInt64 := 30 * 60
def offlineGraceProDays : UInt64 := 7
def offlineGraceTeamDays : UInt64 := 3
def maxConcurrentGuestsFree : Nat := 1
def maxConcurrentGuestsTrial : Nat := 1
def maxConcurrentGuestsPro : Nat := 1
def maxConcurrentGuestsTeam : Nat := 5
def clipboardMaxBytes : Nat := 64 * 1024
def fileOfferMaxBytes : UInt64 := 64 * 1024 * 1024 * 1024
def fileNameMaxBytes : Nat := 255
def maxPendingFileOffers : Nat := 3
def encodeDefaultFps : UInt8 := 60
def encodeDefaultBitrateKbps : UInt32 := 8000
def abrMinBitrateKbps : UInt32 := 300
def abrMaxBitrateKbps : UInt32 := 25000
def abrAdjustMaxRatePerSec : Nat := 1
def abrMinFps : UInt8 := 10
def abrMinScalePercent : UInt32 := 50
def abrScaleStepPercent : UInt32 := 25
def abrFpsStep : UInt8 := 5
def abrGoodputShortfallPercent : UInt32 := 70
def streamScaleMaxPercent : UInt32 := 100
def chatMaxBytes : Nat := 4096
def maxCursorShapePixels : Nat := 128 * 128
def clockRollbackActiveSessionCutoffSecs : UInt64 := 10 * 60
def dirPathMaxBytes : Nat := 4096
def maxDirEntriesPerResponse : Nat := 200
def maxDirManifestEntries : Nat := 200
def manifestPathMaxBytes : Nat := 255
def tunnelHostMaxBytes : Nat := 253
def deviceNameMaxBytes : Nat := 256
def deviceOsMaxBytes : Nat := 16
def terminalColsMax : UInt16 := 500
def terminalRowsMax : UInt16 := 300
def maxMonitorsPerHost : Nat := 8
def audioSampleRateHz : UInt32 := 48000
def audioChannels : UInt8 := 2
def maxConcurrentFileTransfers : Nat := 3
def fileResumeAttempts : UInt32 := 3
def fileChunkMaxBytes : Nat := 262144
def maxTunnelTargetsPerSession : Nat := 16
def maxTunnelStreamsPerSession : Nat := 32
def maxTerminalsPerSession : Nat := 4
def maxTerminalSessions : Nat := 4
def terminalOutputMaxBytes : Nat := 64 * 1024
def terminalScrollbackBytes : Nat := 16 * terminalOutputMaxBytes
def rebootWarningSecs : Nat := 10
def rebootWaitCeilingSecs : Nat := 600
def unattendedTotpStepSecs : UInt64 := 30
def unattendedMaxFailedAttempts : UInt32 := 5
def unattendedLockoutDurationSecs : UInt64 := 300
def unattendedLockoutMaxSecs : UInt64 := 24 * 60 * 60
def unattendedPasswordMinBytes : Nat := 8
def unattendedPasswordMaxBytes : Nat := 1024
def unattendedCodeMaxBytes : Nat := 8
def unattendedProofMinSaltBytes : Nat := 8
def unattendedProofMaxSaltBytes : Nat := 64
def unattendedProofMaxMemoryKib : Nat := 256 * 1024
def unattendedProofMaxIterations : Nat := 16
def unattendedProofMaxLanes : Nat := 16
def unattendedProofMinOutputBytes : Nat := 16
def unattendedProofMaxOutputBytes : Nat := 64
def unattendedProofMaxMessageBytes : Nat := 64
def clipboardFileListMaxEntries : Nat := maxPendingFileOffers
def maxDisplayModesPerHost : Nat := 128
def maxEncoderChoices : Nat := 5
def inviteIdBits : Nat := 128
def inviteTicketTtlSecs : UInt64 := 365 * 24 * 60 * 60
def quicMaxIdleTimeoutSecs : Nat := 8
def obfuscatePaddingMaxBytes : Nat := 128
def obfuscatedHostMoveQuietMs : Nat := 500

end Lumepeer.Core
