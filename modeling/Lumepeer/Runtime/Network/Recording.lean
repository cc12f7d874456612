import Lumepeer.Core.Consent
import Lumepeer.Core.Message
import Lumepeer.Core.Session
import Lumepeer.Lib.HashMap
import Lumepeer.Lib.Run

/-!
# The recording of a session

The part of the host's actor in `crates/runtime/src/network.rs` that starts and stops
recordings, the slots of the two media loops that a recorder is swapped into
(`crates/runtime/src/view.rs`) and the recorder itself (`crates/runtime/src/recorder.rs`).
A recorder is shared, so it is a handle here and what it was given is kept beside the
actor's tables under the handle's serial. One step of the machine is one call of the
actor, one frame that a loop encodes or one that a writer has put on the wire.
-/

namespace Lumepeer.Runtime
open Lumepeer.Lib Lumepeer.Core

/-- `Record` (`recorder.rs:34-42`). -/
inductive Record where
  | video (timestampUs : UInt64) (data : List UInt8)
  | audio (timestampUs : UInt64) (data : List UInt8)
  | event (timestampUs : UInt64) (line : String)
  deriving DecidableEq

/-- `SessionRecorder` (`recorder.rs:49-60`) as it is shared: which one it is, and where it writes.
-/
structure SessionRecorder where
  serial : Nat
  path : String
  deriving DecidableEq

/-- What stands behind a handle: whether `tx` is still there, what went into it, and how many
records found the queue full. -/
structure Tape where
  taking : Bool := false
  records : List Record := []
  dropped : Nat := 0

namespace Tape

/-- `SessionRecorder::send` (`recorder.rs:144-156`); `room` is whether the queue has room. -/
def send (tape : Tape) (room : Bool) (record : Record) : Tape :=
  if !tape.taking then tape
  else if room then { tape with records := tape.records ++ [record] }
  else { tape with dropped := tape.dropped + 1 }

/-- `SessionRecorder::stop` (`recorder.rs:164-183`). -/
def stop (tape : Tape) : Tape := { tape with taking := false }

end Tape

/-- `MediaSession` (`network.rs:4644-4667`), as far as a recording is concerned; it no longer runs
once `halt` was called. -/
structure MediaSession where
  recorder : Option SessionRecorder
  running : Bool := true

/-- `AudioSession` (`network.rs:4692-4698`), as far as a recording is concerned. -/
structure AudioSession where
  recorder : Option SessionRecorder

/-- `WriteJob` (`view.rs:2281-2285`). -/
structure WriteJob where
  timestampUs : UInt64
  data : List UInt8
  recorder : Option SessionRecorder

/-- What the actor knows of a peer when it asks for a permission: whether there is a control
connection, the state of the session and its grants. -/
structure Seat where
  connected : Bool := false
  state : SessionState := .idle
  grants : Option Grants := none

/-- The tables of the actor that a recording is spread over, and what is outside of the actor: the
recorders and the frames on their way to the wire. -/
structure Recordings where
  seats : NodeId → Seat := fun _ => {}
  labels : String → Option NodeId := fun _ => none
  media : HashMap NodeId MediaSession := ∅
  audio : HashMap NodeId AudioSession := ∅
  recorders : HashMap NodeId SessionRecorder := ∅
  recordRequests : NodeId → Bool := fun _ => false
  /-- Every `RecordAck`, oldest first. -/
  acks : List (NodeId × Bool) := []
  /-- Every `RecordingToggled`, oldest first. -/
  audited : List (NodeId × Bool) := []
  tapes : Nat → Tape := fun _ => {}
  /-- How many recorders were started. -/
  started : Nat := 0
  jobs : List WriteJob := []

/-- `recording_path` (`network.rs:3551-3563`); `dir` is the directory, if it can be had. -/
def recordingPath (dir : Option String) (now : Nat) (label : String) : Option String :=
  dir.map fun dir =>
    let safe := (label.toList.filter fun c => c.isAlphanum || c = '-' || c = '_').take 32
    dir ++ "/session-" ++ toString now ++ "-" ++ String.ofList safe ++ ".lmrc"

namespace Recordings

/-- `ActorError`, as far as it is returned here. -/
inductive ActorError where
  | unknownPeer
  | notPermitted
  | net
  deriving DecidableEq

/-- `Actor::resolve` (`network.rs:6415-6420`). -/
def resolve (host : Recordings) (label : String) : Except ActorError NodeId :=
  match host.labels label with
  | some peer => .ok peer
  | none => .error .unknownPeer

/-- Changes what stands behind one handle. -/
def onTape (host : Recordings) (recorder : SessionRecorder) (f : Tape → Tape) : Recordings :=
  { host with tapes := Function.update host.tapes recorder.serial (f (host.tapes recorder.serial)) }

/-- `SessionRecorder::write_event` (`recorder.rs:137-142`). The actor finds room, since the queue
takes hundreds of records; `room` says when it does not. -/
def writeEvent (host : Recordings) (recorder : SessionRecorder) (room : Bool) (line : String) :
    Recordings :=
  host.onTape recorder fun tape => tape.send room (.event 0 line)

/-- `send_to` of a `RecordAck`. -/
def sendAck (host : Recordings) (peer : NodeId) (recording : Bool) : Recordings :=
  { host with acks := host.acks ++ [(peer, recording)] }

/-- `audit` of a `RecordingToggled`. -/
def audit (host : Recordings) (peer : NodeId) (enabled : Bool) : Recordings :=
  { host with audited := host.audited ++ [(peer, enabled)] }

/-- The check of `on_media_accepted` (`network.rs:10153-10158`). -/
def mediaGranted (host : Recordings) (peer : NodeId) (secureScreen : Bool) : Bool :=
  let seat := host.seats peer
  seat.connected && seat.state == .active
    && seat.grants.any fun g => g.view && (g.secureDesktop || !secureScreen)

/-- `Actor::start_audio` (`network.rs:13423-13456`). -/
def startAudio (host : Recordings) (peer : NodeId) : Bool × Recordings :=
  match host.media.lookup peer with
  | none => (false, host)
  | some _ =>
      (true, { host with
        audio := (host.audio.erase peer).insert peer ⟨host.recorders.lookup peer⟩ })

/-- `Actor::on_media_accepted` (`network.rs:10148-10267`); `fault` is why the host cannot feed a
picture, if it cannot. -/
def onMediaAccepted (host : Recordings) (peer : NodeId) (secureScreen : Bool)
    (fault : Option MediaUnavailableReason) : Recordings :=
  if !host.mediaGranted peer secureScreen then host
  else
    let host := { host with media := host.media.erase peer }
    match fault with
    | some _ => host
    | none =>
        -- the slot starts out empty
        let host := { host with media := host.media.insert peer { recorder := none } }
        (host.startAudio peer).2

/-- The end of `recheck_media_codec` (`network.rs:7179-7186`), where the choice came out different.
-/
def restartMedia (host : Recordings) (peer : NodeId) : Recordings :=
  match host.media.lookup peer with
  | none => host
  | some session =>
      { host with
        media := host.media.insert peer { session with running := false }
        audio := host.audio.erase peer }

/-- `Actor::on_media_fault` (`network.rs:10396-10410`). -/
def onMediaFault (host : Recordings) (peer : NodeId) (reason : MediaUnavailableReason) : Recordings :=
  if reason = .secureDesktopActive then host
  else { host with media := host.media.erase peer, audio := host.audio.erase peer }

/-- `Actor::stop_media` (`network.rs:10494-10525`). -/
def stopMedia (host : Recordings) (peer : NodeId) (room : Bool) : Recordings :=
  let host := { host with media := host.media.erase peer, audio := host.audio.erase peer }
  let host := match host.recorders.lookup peer with
    | some recorder =>
        let host := { host with recorders := host.recorders.erase peer }
        let host := host.writeEvent recorder room
          "\x7b\"event\":\"record-stop\",\"reason\":\"session-end\"\x7d"
        (host.onTape recorder Tape.stop).audit peer false
    | none => host
  { host with recordRequests := Function.update host.recordRequests peer false }

/-- Puts what `slot` says into the slots of the loops that run for `peer`. -/
def fillSlots (host : Recordings) (peer : NodeId) (slot : Option SessionRecorder) : Recordings :=
  { host with
    media := host.media.modify peer fun session => { session with recorder := slot }
    audio := host.audio.modify peer fun session => { session with recorder := slot } }

/-- The first half of `on_record_toggle` (`network.rs:13287-13340`). `path` is what `recording_path`
answers and `opens` whether the file can be created. -/
def recordOn (host : Recordings) (peer : NodeId) (label : String) (path : Option String)
    (opens room : Bool) : Except ActorError (Option String) × Recordings :=
  let seat := host.seats peer
  if !(seat.connected && seat.state == .active && seat.grants.any (·.recording)) then
    if host.recordRequests peer then
      let host := { host with recordRequests := Function.update host.recordRequests peer false }
      (.error .notPermitted, host.sendAck peer false)
    else (.error .notPermitted, host)
  else
    match host.recorders.lookup peer with
    | some running => (.ok (some running.path), host)
    | none =>
        match path with
        | none => (.error .net, host)
        | some path =>
            if !opens then (.error .net, host)
            else
              let recorder : SessionRecorder := ⟨host.started, path⟩
              let host := { host with
                tapes := Function.update host.tapes host.started { taking := true }
                started := host.started + 1 }
              let host := host.writeEvent recorder room
                ("\x7b\"event\":\"record-start\",\"session\":\"" ++ label ++ "\"\x7d")
              let host := host.fillSlots peer (some recorder)
              let host := { host with
                recorders := host.recorders.insert peer recorder
                recordRequests := Function.update host.recordRequests peer false }
              (.ok (some path), (host.sendAck peer true).audit peer true)

/-- The second half of `on_record_toggle` (`network.rs:13341-13370`). -/
def recordOff (host : Recordings) (peer : NodeId) (room : Bool) : Recordings :=
  let host := match host.recorders.lookup peer with
    | some recorder =>
        let host := { host with recorders := host.recorders.erase peer }
        let host := host.fillSlots peer none
        let host := host.writeEvent recorder room "\x7b\"event\":\"record-stop\"\x7d"
        (host.onTape recorder Tape.stop).audit peer false
    | none => host
  let asked := host.recordRequests peer
  let host := { host with recordRequests := Function.update host.recordRequests peer false }
  if asked || (host.seats peer).connected then host.sendAck peer false else host

/-- `Actor::on_record_toggle` (`network.rs:13285-13371`). -/
def onRecordToggle (host : Recordings) (label : String) (turnOn : Bool) (path : Option String)
    (opens room : Bool) : Except ActorError (Option String) × Recordings :=
  match host.resolve label with
  | .error error => (.error error, host)
  | .ok peer =>
      if turnOn then host.recordOn peer label path opens room
      else (.ok none, host.recordOff peer room)

/-- `Actor::on_audio_toggle` (`network.rs:13393-13417`). -/
def onAudioToggle (host : Recordings) (label : String) (turnOn : Bool) :
    Except ActorError Unit × Recordings :=
  match host.resolve label with
  | .error error => (.error error, host)
  | .ok peer =>
      let seat := host.seats peer
      if !(seat.connected && seat.state == .active && seat.grants.any (·.view)) then
        (.error .notPermitted, host)
      else if turnOn then
        if (host.audio.lookup peer).isSome then (.ok (), host)
        else
          match host.startAudio peer with
          | (false, host) => (.error .unknownPeer, host)
          | (true, host) => (.ok (), host)
      else (.ok (), { host with audio := host.audio.erase peer })

/-- The arm of `RecordRequest` (`network.rs:12434-12455`); `limited` is whether the peer's budget is
spent. -/
def onRecordRequested (host : Recordings) (peer : NodeId) (limited : Bool) : Recordings :=
  if (host.seats peer).state ≠ .active then host
  else if limited then host.sendAck peer false
  else if (host.recorders.lookup peer).isSome then host.sendAck peer true
  else { host with recordRequests := Function.update host.recordRequests peer true }

/-- One frame of the encode loop (`view.rs:1630-1633` and `view.rs:2010-2014`), which offers it to
whatever is in the slot. -/
def encodeFrame (host : Recordings) (peer : NodeId) (timestampUs : UInt64) (data : List UInt8) :
    Option WriteJob × Recordings :=
  match host.media.lookup peer with
  | none => (none, host)
  | some session =>
      if !session.running then (none, host)
      else
        let job : WriteJob := ⟨timestampUs, data, session.recorder⟩
        (some job, { host with jobs := host.jobs ++ [job] })

/-- One turn of a `spawn_media_writer` (`view.rs:2301-2309`): the job leaves the queue, and is
recorded if the frame could be `written`. -/
def writeJob (host : Recordings) (index : Nat) (written room : Bool) : Recordings :=
  match host.jobs[index]? with
  | none => host
  | some job =>
      let host := { host with jobs := host.jobs.eraseIdx index }
      match written, job.recorder with
      | true, some recorder =>
          host.onTape recorder fun tape => tape.send room (.video job.timestampUs job.data)
      | _, _ => host

/-- One packet of the audio loop that was written (`view.rs:3393-3401`). -/
def writePacket (host : Recordings) (peer : NodeId) (timestampUs : UInt64) (data : List UInt8)
    (room : Bool) : Recordings :=
  match host.audio.lookup peer with
  | none => host
  | some session =>
      match session.recorder with
      | none => host
      | some recorder => host.onTape recorder fun tape => tape.send room (.audio timestampUs data)

/-- What happens to the actor and beside it. Sessions come and go with `seated` and `labelled`; the
end of one calls `stop_media`. -/
inductive Op where
  | seated (peer : NodeId) (seat : Seat)
  | labelled (labels : String → Option NodeId)
  | mediaAccepted (peer : NodeId) (secureScreen : Bool) (fault : Option MediaUnavailableReason)
  | restartMedia (peer : NodeId)
  | mediaFault (peer : NodeId) (reason : MediaUnavailableReason)
  | stopMedia (peer : NodeId) (room : Bool)
  | recordToggle (label : String) (turnOn : Bool) (dir : Option String) (now : Nat)
      (opens room : Bool)
  | audioToggle (label : String) (turnOn : Bool)
  | recordRequested (peer : NodeId) (limited : Bool)
  | encoded (peer : NodeId) (timestampUs : UInt64) (data : List UInt8)
  | written (index : Nat) (written room : Bool)
  | packet (peer : NodeId) (timestampUs : UInt64) (data : List UInt8) (room : Bool)

/-- What a step answers with. -/
inductive Out where
  | none
  | recordToggle (result : Except ActorError (Option String))
  | audioToggle (result : Except ActorError Unit)
  | encoded (job : Option WriteJob)

/-- One step of the host. -/
def step (host : Recordings) : Op → Out × Recordings
  | .seated peer seat => (.none, { host with seats := Function.update host.seats peer seat })
  | .labelled labels => (.none, { host with labels })
  | .mediaAccepted peer secureScreen fault => (.none, host.onMediaAccepted peer secureScreen fault)
  | .restartMedia peer => (.none, host.restartMedia peer)
  | .mediaFault peer reason => (.none, host.onMediaFault peer reason)
  | .stopMedia peer room => (.none, host.stopMedia peer room)
  | .recordToggle label turnOn dir now opens room =>
      let (result, host) :=
        host.onRecordToggle label turnOn (recordingPath dir now label) opens room
      (.recordToggle result, host)
  | .audioToggle label turnOn =>
      let (result, host) := host.onAudioToggle label turnOn
      (.audioToggle result, host)
  | .recordRequested peer limited => (.none, host.onRecordRequested peer limited)
  | .encoded peer timestampUs data =>
      let (job, host) := host.encodeFrame peer timestampUs data
      (.encoded job, host)
  | .written index written room => (.none, host.writeJob index written room)
  | .packet peer timestampUs data room => (.none, host.writePacket peer timestampUs data room)

/-- A host that has just started. -/
def new : Recordings := {}

end Recordings

end Lumepeer.Runtime
